import Admissorium.GlobTokens
import Admissorium.JavaScript.CodeUnits
import Admissorium.Policies

/-!
# The three glob compilers

Three modules of the program turn a policy's glob into a regular expression, each
by its own chain of text replacements. All escape the characters a pattern would
otherwise interpret and write `**` as `.*` and `*` as `[^/]*`; they differ in when.
The firewall and `app/permissions` put a placeholder where `**` stood until the
single stars are done. They compile a glob without `?` to the meaning of its pieces,
unless a placeholder stands in the glob or a start of one before `**`. The guard of
`src/policy` writes `.*` first and then rewrites its star, so its `**` means `.[^/]*`.
-/
namespace Admissorium.GlobEngines
set_option autoImplicit false

open JavaScript RegExp Glob Policies

def escapeChar (c : Char) : List Char :=
  if c ∈ ['.', '+', '^', '$', '\x7b', '\x7d', '(', ')', '|', '[', ']', '\\'] then ['\\', c] else [c]

/-- `.replace(/[.+^${}()|[\]\\]/g, "\\$&")`. -/
def escape (glob : String) : String := String.ofList (glob.toList.flatMap escapeChar)

/-- `src/policy/evaluate-protected-truth-paths.ts`. -/
def Policy.globToRegExp (glob : String) : Except JsError SourceRegExp :=
  let escaped := escape glob
  let escaped := Text.replaceAll escaped "**" ".*"
  let escaped := Text.replaceAll escaped "*" "[^/]*"
  RegExp.ofSource ("^" ++ escaped ++ "$")

/-- `src/firewall/protected-truth-firewall.js`. -/
def Firewall.globToRegExp (pattern : String) : Except JsError SourceRegExp :=
  let escaped := escape pattern
  let escaped := Text.replaceAll escaped "**" "§DOUBLESTAR§"
  let escaped := Text.replaceAll escaped "*" "[^/]*"
  let escaped := Text.replaceAll escaped "§DOUBLESTAR§" ".*"
  RegExp.ofSource ("^" ++ escaped ++ "$")

/-- `app/permissions.ts`. -/
def Permissions.globToRegExp (glob : String) : Except JsError SourceRegExp :=
  let token := "__DOUBLE_STAR__"
  let escaped := Text.replaceAll glob "**" token
  let escaped := escape escaped
  let escaped := Text.replaceAll escaped "*" "[^/]*"
  let escaped := Text.replaceAll escaped token ".*"
  RegExp.ofSource ("^" ++ escaped ++ "$")

/-- `?` is not escaped. After a character of two code units it makes the second optional. -/
example : Permissions.globToRegExp "docs/😀?" >>= (fun r => pure (r.test "docs/")) = .ok false := by
  decide +kernel

/-! ## What pieces are compiled to -/

theorem paired_terms (ps : List Piece) : Paired (ps.map Piece.term) := by
  induction ps with
  | nil => exact .nil
  | cons p ps ih =>
      cases p with
      | char c => exact .char c ih
      | star => exact .star false (wide_compl (by decide)) ih
      | globstar => exact .star false wide_dot ih

theorem test_compiled_pieces (ps : List Piece) (path : String) :
    (compiled (ps.map Piece.term)).test path = (anchored (ps.map Piece.term)).test path :=
  test_compiled (plain_terms ps) (paired_terms ps) path

theorem test_compiled_zone {z : Zone} (h : Starless z) (path : String) :
    (compiled z.matcher).test path = (anchored z.matcher).test path := by
  rw [← matcher_pattern h]
  exact test_compiled_pieces _ path

/-! ## The links the chains share -/

theorem mem_escapeChar {c x : Char} (h : x ∈ escapeChar c) : x = '\\' ∨ x = c := by
  unfold escapeChar at h
  split at h <;> simp_all

theorem escapeChar_starFree : StarFree escapeChar where
  star := by decide
  ne_nil := by
    intro c
    unfold escapeChar
    split <;> simp
  free := by
    intro c hc hm
    rcases mem_escapeChar hm with h | h
    · revert h
      decide
    · exact hc h.symm

theorem syntaxCharacters_lt : ∀ c ∈ syntaxCharacters, c.toNat < 0x10000 := by decide

theorem reads_escapeChar {c : Char} (hs : c ≠ '*') (hq : c ≠ '?') :
    Reads ((escapeChar c).flatMap Text.halves) (unitTerms (set (.char c))) := by
  unfold escapeChar
  split
  · rename_i h
    have hsyntax : c ∈ syntaxCharacters := by
      revert h
      simp only [syntaxCharacters, List.mem_cons, List.not_mem_nil, or_false]
      tauto
    have hhalves := Text.halves_of_lt (syntaxCharacters_lt c hsyntax)
    rw [unitTerms, hhalves]
    change Reads ('\\' :: ([c].flatMap Text.halves)) _
    rw [List.flatMap_singleton, hhalves]
    exact reads_of_escaped hsyntax
  · rename_i h
    have hplain : c ∉ syntaxCharacters := by
      intro hm
      simp only [syntaxCharacters, List.mem_cons, List.not_mem_nil, or_false] at hm h
      tauto
    rw [List.flatMap_singleton, unitTerms]
    rcases Nat.lt_or_ge c.toNat 0x10000 with hc | hc
    · rw [Text.halves_of_lt hc]
      exact reads_of_char hplain
    · obtain ⟨high, low, heq, hhigh, hlow⟩ := Text.halves_of_le hc
      have hsymbol {u : Char} (hu : 0x10000 ≤ u.toNat) : u ∉ syntaxCharacters :=
        fun hm => absurd (syntaxCharacters_lt u hm) (Nat.not_lt.mpr hu)
      rw [heq]
      exact reads_append (reads_of_char (hsymbol (by omega))) (reads_of_char (hsymbol (by omega)))

/-- `**`, then `*`, in an escaped glob. -/
theorem replace_stars (two glob : List Char) :
    Text.replaceFrom ['*'] "[^/]*".toList 0
        (Text.replaceFrom ['*', '*'] two 0 (glob.flatMap escapeChar)) =
      (pieces glob).flatMap (Piece.render escapeChar "[^/]*".toList
        (two.flatMap (fun c => if c = '*' then "[^/]*".toList else [c]))) := by
  rw [replace_globstar escapeChar_starFree, replace_star escapeChar_starFree]

/-- The source written for pieces without `?` reads piece by piece. -/
theorem reads_pieces {ps : List Piece} (hps : ∀ c ∈ chars ps, c ≠ '*' ∧ c ≠ '?') {two : List Char}
    {rs : List RegExp} (htwo : Reads (two.flatMap Text.halves) (rs.flatMap unitTerms)) :
    Reads ((ps.flatMap (Piece.render escapeChar "[^/]*".toList two)).flatMap Text.halves)
      ((ps.flatMap (Piece.terms rs)).flatMap unitTerms) := by
  rw [List.flatMap_assoc, List.flatMap_assoc]
  apply reads_flatMap
  intro p hp
  cases p with
  | char c =>
      obtain ⟨hs, hq⟩ := hps c (mem_chars.mpr hp)
      rw [Piece.terms, List.flatMap_singleton]
      exact reads_escapeChar hs hq
  | star => exact reads_compl_star '/'
  | globstar => exact htwo

theorem chars_pieces {glob : List Char} (hq : '?' ∉ glob) :
    ∀ c ∈ chars (pieces glob), c ≠ '*' ∧ c ≠ '?' := by
  intro c hc
  obtain ⟨hs, hmem⟩ := char_mem_pieces (mem_chars.mp hc)
  exact ⟨hs, fun h => hq (h ▸ hmem)⟩

/-- The text of a placeholder holds no star for the second replacement to find. -/
theorem starless_token {token : List Char} (h : '*' ∉ token) (one : List Char) :
    token.flatMap (fun c => if c = '*' then one else [c]) = token := by
  have hcopy : ∀ c ∈ token, (if c = '*' then one else [c]) = [c] := by
    intro c hc
    rw [if_neg]
    rintro rfl
    exact h hc
  rw [List.flatMap_congr hcopy]
  simp

/-! ## The firewall and `app/permissions` -/

def Firewall.token : String := "§DOUBLESTAR§"

def Permissions.token : String := "__DOUBLE_STAR__"

/-- What a chain with this placeholder reads a glob as. -/
def reading (token glob : String) : List Piece :=
  collapse (token.toList.map .char) 0 (expand token.toList (pieces glob.toList))

theorem plain_escapeChar {token : List Char} (hne : token ≠ [])
    (hself : ∀ c ∈ token, escapeChar c = [c]) (hslash : '\\' ∉ token)
    (hone : ∀ c ∈ token, c ∉ "[^/]*".toList) : Plain token escapeChar "[^/]*".toList where
  ne_nil := hne
  self := hself
  free := by
    intro c hc d hd
    rcases mem_escapeChar hd with rfl | h
    · exact absurd hc hslash
    · exact h
  encode_ne_nil := escapeChar_starFree.ne_nil
  one_ne_nil := by decide
  one_free := hone

theorem plain_firewall : Plain Firewall.token.toList escapeChar "[^/]*".toList :=
  plain_escapeChar (by decide) (by decide) (by decide) (by decide)

theorem plain_permissions : Plain Permissions.token.toList escapeChar "[^/]*".toList :=
  plain_escapeChar (by decide) (by decide) (by decide) (by decide)

/-- Characters that were not in the glob are the placeholder's. -/
theorem mem_reading {token glob : String} {c : Char} (h : c ∈ chars (reading token glob)) :
    c ∈ chars (pieces glob.toList) ∨ c ∈ token.toList := by
  rcases mem_collapse (mem_chars.mp h) with hstar | hin
  · cases hstar
  · rcases (mem_expand hin).2 with hpiece | htoken
    · exact Or.inl (mem_chars.mpr hpiece)
    · obtain ⟨d, hd, he⟩ := List.mem_map.mp htoken
      cases he
      exact Or.inr hd

/-- The last link of the chain, and what its source means. -/
theorem reads_reading {token glob : String} (hplain : Plain token.toList escapeChar "[^/]*".toList)
    (htoken : ∀ c ∈ token.toList, c ≠ '*' ∧ c ≠ '?') (hq : '?' ∉ glob.toList) :
    Reads ((Text.replaceFrom token.toList ".*".toList 0 ((pieces glob.toList).flatMap
        (Piece.render escapeChar "[^/]*".toList token.toList))).flatMap Text.halves)
      (((reading token glob).map Piece.term).flatMap unitTerms) := by
  have hstar : .globstar ∉ expand token.toList (pieces glob.toList) :=
    fun h => (mem_expand h).1 rfl
  have hchars : ∀ c ∈ chars (reading token glob), c ≠ '*' ∧ c ≠ '?' := by
    intro c hc
    rcases mem_reading hc with hglob | hin
    · exact chars_pieces hq c hglob
    · exact htoken c hin
  rw [← render_expand hplain.self, replace_rendered hplain _ hstar, ← flatMap_terms]
  exact reads_pieces hchars reads_dot_star

/-- The firewall compiles a glob to the meaning of what it reads. -/
theorem firewall_reading {glob : String} (hq : '?' ∉ glob.toList) :
    Firewall.globToRegExp glob =
      .ok (compiled ((reading Firewall.token glob).map Piece.term)) := by
  have hpair : "**".toList = ['*', '*'] := rfl
  have hsingle : "*".toList = ['*'] := rfl
  have hstar : '*' ∉ Firewall.token.toList := by decide
  apply ofSource_anchored
  simp only [Text.replaceAll, escape, String.toList_ofList, hpair, hsingle]
  change Reads ((Text.replaceFrom Firewall.token.toList _ 0 (Text.replaceFrom _ _ 0
    (Text.replaceFrom _ Firewall.token.toList 0 _))).flatMap _) _
  rw [replace_stars, starless_token hstar]
  exact reads_reading plain_firewall (by decide) hq

/-- So does `app/permissions`. -/
theorem permissions_reading {glob : String} (hq : '?' ∉ glob.toList) :
    Permissions.globToRegExp glob =
      .ok (compiled ((reading Permissions.token glob).map Piece.term)) := by
  have hpair : "**".toList = ['*', '*'] := rfl
  have hsingle : "*".toList = ['*'] := rfl
  have hstar : '*' ∉ Permissions.token.toList := by decide
  have hescaped : Permissions.token.toList.flatMap escapeChar = Permissions.token.toList := by
    decide
  have hraw : glob.toList = glob.toList.flatMap (fun c => [c]) := by simp
  have hencode : (fun c => [c].flatMap escapeChar) = escapeChar := by
    funext c
    simp
  have hkept : ['*'].flatMap escapeChar = ['*'] := by decide
  apply ofSource_anchored
  simp only [Text.replaceAll, escape, String.toList_ofList, hpair, hsingle]
  change Reads ((Text.replaceFrom Permissions.token.toList _ 0 (Text.replaceFrom _ _ 0
    ((Text.replaceFrom _ Permissions.token.toList 0 _).flatMap escapeChar))).flatMap _) _
  rw [hraw, replace_globstar starFree_singleton, flatMap_render, hescaped, hencode, hkept,
    replace_star escapeChar_starFree, starless_token hstar]
  exact reads_reading plain_permissions (by decide) hq

/-! ## What disturbs the two -/

section Disturbed

variable {token glob : String}

theorem infix_star_iff {start : List Char} (hne : start ≠ []) (hstar : '*' ∉ start) :
    start.map .char ++ [.globstar] <:+: pieces glob.toList ↔
      Text.includes glob (String.ofList start ++ "**") = true := by
  rw [Text.includes_iff, String.toList_append, String.toList_ofList,
    infix_pieces_iff hstar hne [.globstar] (Or.inr rfl)]
  exact Iff.rfl

theorem infix_token_iff (hne : token.toList ≠ []) (hstar : '*' ∉ token.toList) :
    token.toList.map .char <:+: pieces glob.toList ↔ Text.includes glob token = true := by
  have h := infix_pieces_iff hstar hne [] (Or.inl rfl) glob.toList
  simp only [List.flatMap_nil, List.append_nil] at h
  rw [Text.includes_iff, h]

theorem starless_start {start : List Char} (hstar : '*' ∉ token.toList)
    (h : start ∈ starts token.toList) : start ≠ [] ∧ '*' ∉ start := by
  obtain ⟨hne, rest, _, htoken, _⟩ := mem_starts_iff.mp h
  exact ⟨hne, fun hm => hstar (by rw [htoken]; exact List.mem_append_left _ hm)⟩

/-- Where nothing disturbs it, a chain reads the pieces of the glob. -/
theorem reading_eq (token : String) (hne : token.toList ≠ []) (hstar : '*' ∉ token.toList)
    (htoken : Text.includes glob token = false)
    (hstarts : ∀ start ∈ starts token.toList,
      Text.includes glob (String.ofList start ++ "**") = false) :
    reading token glob = pieces glob.toList := by
  apply collapse_expand hne
  constructor
  · rw [infix_token_iff hne hstar, htoken]
    simp
  · intro start hstart
    have hmem := mem_starts_iff.mpr hstart
    obtain ⟨hsne, hsstar⟩ := starless_start hstar hmem
    rw [infix_star_iff hsne hsstar, hstarts start hmem]
    simp

/-- Where a start of the placeholder stands before `**`, it reads other characters. -/
theorem firstDifference_reading {a b : Char} (hd : Diverges token.toList a b)
    (hne : token.toList ≠ []) (hstar : '*' ∉ token.toList)
    (htoken : Text.includes glob token = false) {start : List Char}
    (hstart : start ∈ starts token.toList)
    (hin : Text.includes glob (String.ofList start ++ "**") = true) :
    FirstDifference a b (chars (pieces glob.toList)) (chars (reading token glob)) := by
  obtain ⟨hsne, hsstar⟩ := starless_start hstar hstart
  refine firstDifference_collapse hd ?_ (mem_starts_iff.mp hstart)
    ((infix_star_iff hsne hsstar).mpr hin)
  rw [infix_token_iff hne hstar, htoken]
  simp

end Disturbed

theorem starts_firewall : starts Firewall.token.toList = ["§DOUBLESTAR".toList] := by decide

theorem starts_permissions :
    starts Permissions.token.toList = ["__DOUBLE_STAR".toList, "__DOUBLE_STAR_".toList] := by decide

theorem firewall_eq {glob : String} (hq : '?' ∉ glob.toList)
    (htoken : Text.includes glob "§DOUBLESTAR§" = false)
    (hstart : Text.includes glob "§DOUBLESTAR**" = false) :
    Firewall.globToRegExp glob = .ok (compiled (matcher glob)) := by
  have hread : reading Firewall.token glob = pieces glob.toList := by
    apply reading_eq Firewall.token (by decide) (by decide) htoken
    rw [starts_firewall, List.forall_mem_singleton]
    exact hstart
  rw [firewall_reading hq, hread, matcher]

theorem permissions_eq {glob : String} (hq : '?' ∉ glob.toList)
    (htoken : Text.includes glob "__DOUBLE_STAR__" = false)
    (hstart : Text.includes glob "__DOUBLE_STAR**" = false)
    (hstart_ : Text.includes glob "__DOUBLE_STAR_**" = false) :
    Permissions.globToRegExp glob = .ok (compiled (matcher glob)) := by
  have hread : reading Permissions.token glob = pieces glob.toList := by
    apply reading_eq Permissions.token (by decide) (by decide) htoken
    rw [starts_permissions, List.forall_mem_cons, List.forall_mem_singleton]
    exact ⟨hstart, hstart_⟩
  rw [permissions_reading hq, hread, matcher]

theorem diverges_firewall : Diverges Firewall.token.toList '§' 'D' := by
  apply diverges_of_starts (by decide)
  rw [starts_firewall]
  intro start h
  obtain rfl := List.mem_singleton.mp h
  exact ⟨[], "DOUBLESTAR".toList, "OUBLESTAR§".toList, by decide, by decide, by decide⟩

theorem diverges_permissions : Diverges Permissions.token.toList '_' 'D' := by
  apply diverges_of_starts (by decide)
  rw [starts_permissions, List.forall_mem_cons, List.forall_mem_singleton]
  constructor
  · exact ⟨[], "_DOUBLE_STAR".toList, "OUBLE_STAR__".toList, by decide, by decide, by decide⟩
  · exact ⟨['_'], "DOUBLE_STAR_".toList, "OUBLE_STAR__".toList, by decide, by decide, by decide⟩

/-! ## The guard of `src/policy` -/

/-- The star of `.*` becomes `[^/]*`, which leaves a lone `.` in front of it. -/
def guardTerms : Piece → List RegExp := Piece.terms [set .dot, Zone.segment]

theorem guard_eq {glob : String} (hq : '?' ∉ glob.toList) :
    Policy.globToRegExp glob = .ok (compiled ((pieces glob.toList).flatMap guardTerms)) := by
  have hpair : "**".toList = ['*', '*'] := rfl
  have hsingle : "*".toList = ['*'] := rfl
  have htwo : ".*".toList.flatMap (fun c => if c = '*' then "[^/]*".toList else [c]) =
      ['.'] ++ "[^/]*".toList := by decide
  apply ofSource_anchored
  simp only [Text.replaceAll, escape, String.toList_ofList, hpair, hsingle]
  rw [replace_stars, htwo]
  exact reads_pieces (chars_pieces hq) (reads_append reads_dot (reads_compl_star '/'))

/-! ## The shipped patterns -/

theorem shipped_clean : ∀ z ∈ truthPerimeter ++ classPerimeter,
    Starless z ∧ '?' ∉ z.pattern.toList ∧
      (Text.includes z.pattern "§DOUBLESTAR§" = false ∧
        Text.includes z.pattern "§DOUBLESTAR**" = false) ∧
      Text.includes z.pattern "__DOUBLE_STAR__" = false ∧
      Text.includes z.pattern "__DOUBLE_STAR**" = false ∧
      Text.includes z.pattern "__DOUBLE_STAR_**" = false := by decide +kernel

theorem shipped_starless {z : Zone} (h : z ∈ truthPerimeter ++ classPerimeter) : Starless z :=
  (shipped_clean z h).1

/-- The firewall compiles each shipped truth pattern to the matcher of its zone. -/
theorem firewall_compiles {z : Zone} (h : z ∈ truthPerimeter) :
    Firewall.globToRegExp z.pattern = .ok (compiled z.matcher) := by
  obtain ⟨hs, hq, ⟨htoken, hstart⟩, _⟩ := shipped_clean z (List.mem_append_left _ h)
  rw [firewall_eq hq htoken hstart, matcher_pattern hs]

/-- So does `app/permissions` with the patterns of the class file. -/
theorem permissions_compiles {z : Zone} (h : z ∈ classPerimeter) :
    Permissions.globToRegExp z.pattern = .ok (compiled z.matcher) := by
  obtain ⟨hs, hq, _, htoken, hstart, hstart_⟩ := shipped_clean z (List.mem_append_right _ h)
  rw [permissions_eq hq htoken hstart hstart_, matcher_pattern hs]

end Admissorium.GlobEngines
