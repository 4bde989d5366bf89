import Admissorium.JavaScript.JsonParse
import Admissorium.JavaScript.JsonPretty

/-!
# Reading a text back

A text on several lines is parsed to the value it was made from. Each part of it is scanned to
its tokens whatever follows, and the machine reads these as the part whatever it is inside of.
-/
namespace Admissorium.JavaScript.Json
set_option autoImplicit false

/-! ## What the scanner makes of a text -/

/-- The scanner after some tokens and a text. -/
def scanned (done : List Token) (text : List Char) : Option Scanner :=
  text.foldlM scan ⟨done, .between⟩

theorem scanned_blank (done : List Token) {c : Char} (h : c ∈ blanks) (rest : List Char) :
    scanned done (c :: rest) = scanned done rest := by
  have hopen : open_ done c = ⟨done, .between⟩ := by rw [open_, if_pos h]
  rw [scanned, List.foldlM_cons, scan, hopen]
  rfl

theorem scanned_mark (done : List Token) {c : Char} (h : c ∈ marks) (rest : List Char) :
    scanned done (c :: rest) = scanned (done ++ [.mark c]) rest := by
  have hapart : ∀ c ∈ marks, c ∉ blanks := by decide
  have hopen : open_ done c = ⟨done ++ [.mark c], .between⟩ := by
    rw [open_, if_neg (hapart c h), if_pos h]
  rw [scanned, List.foldlM_cons, scan, hopen]
  rfl

theorem scanned_gap (done : List Token) (depth : Nat) (rest : List Char) :
    scanned done ((gap depth).toList ++ rest) = scanned done rest := by
  have hblanks : ∀ n, scanned done (List.replicate n ' ' ++ rest) = scanned done rest := by
    intro n
    induction n with
    | zero => rfl
    | succ n ih =>
        rw [List.replicate_succ, List.cons_append, scanned_blank done (by decide), ih]
  rw [gap, String.toList_ofList, List.cons_append, scanned_blank done (by decide), hblanks]

theorem hexUnit_hexDigit : ∀ n < 16, hexUnit (hexDigit n) = some n := by decide

/-- The escape of a code unit by its last two digits. -/
theorem scan_code (done : List Token) (units : List Nat) {high low : Char} {a b : Nat}
    (ha : hexUnit high = some a) (hb : hexUnit low = some b) (rest : List Char) :
    ('\\' :: 'u' :: '0' :: '0' :: high :: low :: rest).foldlM scan ⟨done, .text units⟩ =
      rest.foldlM scan ⟨done, .text (units ++ [a * 16 + b])⟩ := by
  have hhigh : scan ⟨done, .code units 2 0⟩ high = some ⟨done, .code units 1 a⟩ := by
    rw [scan, ha, Option.map_some, Nat.zero_mul, Nat.zero_add]
    rfl
  have hlow : scan ⟨done, .code units 1 a⟩ low = some ⟨done, .text (units ++ [a * 16 + b])⟩ := by
    rw [scan, hb]
    rfl
  change (high :: low :: rest).foldlM scan ⟨done, .code units 2 0⟩ = _
  rw [List.foldlM_cons, hhigh, Option.bind_eq_bind, Option.bind_some, List.foldlM_cons, hlow]
  rfl

/-- Scanning an escape in a text adds the code units of the character. -/
theorem scan_escapeChar (done : List Token) (units : List Nat) (c : Char) (rest : List Char) :
    (escapeChar c ++ rest).foldlM scan ⟨done, .text units⟩ =
      rest.foldlM scan ⟨done, .text (units ++ Text.charUnits c)⟩ := by
  have hescape : ∀ d unit, escapes.lookup d = some unit → Text.charUnits c = [unit] →
      ('\\' :: d :: rest).foldlM scan ⟨done, .text units⟩ =
        rest.foldlM scan ⟨done, .text (units ++ Text.charUnits c)⟩ := by
    intro d unit hd hunits
    have hslash : scan ⟨done, .text units⟩ '\\' = some ⟨done, .escape units⟩ := by
      rw [scan, if_neg (by decide), if_pos rfl]
    have hunit : scan ⟨done, .escape units⟩ d = some ⟨done, .text (units ++ [unit])⟩ := by
      rw [scan, hd]
    rw [List.foldlM_cons, hslash, Option.bind_eq_bind, Option.bind_some, List.foldlM_cons, hunit,
      hunits]
    rfl
  unfold escapeChar
  by_cases hquote : c = '"'
  · rw [if_pos hquote]
    exact hescape '"' 34 (by decide) (by subst hquote; decide)
  rw [if_neg hquote]
  by_cases hslash : c = '\\'
  · rw [if_pos hslash]
    exact hescape '\\' 92 (by decide) (by subst hslash; decide)
  rw [if_neg hslash]
  by_cases hb : c = '\u0008'
  · rw [if_pos hb]
    exact hescape 'b' 8 (by decide) (by subst hb; decide)
  rw [if_neg hb]
  by_cases hf : c = '\u000c'
  · rw [if_pos hf]
    exact hescape 'f' 12 (by decide) (by subst hf; decide)
  rw [if_neg hf]
  by_cases hn : c = '\n'
  · rw [if_pos hn]
    exact hescape 'n' 10 (by decide) (by subst hn; decide)
  rw [if_neg hn]
  by_cases hr : c = '\r'
  · rw [if_pos hr]
    exact hescape 'r' 13 (by decide) (by subst hr; decide)
  rw [if_neg hr]
  by_cases ht : c = '\t'
  · rw [if_pos ht]
    exact hescape 't' 9 (by decide) (by subst ht; decide)
  rw [if_neg ht]
  by_cases hcontrol : c.toNat < 32
  · have hunits : Text.charUnits c = [c.toNat] := by rw [Text.charUnits, if_pos (by omega)]
    have hhigh := hexUnit_hexDigit (c.toNat / 16) (by omega)
    have hlow := hexUnit_hexDigit (c.toNat % 16) (by omega)
    have hcode := scan_code done units hhigh hlow rest
    rw [Nat.div_add_mod'] at hcode
    rw [if_pos hcontrol, hunits]
    exact hcode
  · have hscan : scan ⟨done, .text units⟩ c = some ⟨done, .text (units ++ Text.charUnits c)⟩ := by
      rw [scan, if_neg hquote, if_neg hslash, if_neg hcontrol]
    rw [if_neg hcontrol, List.singleton_append, List.foldlM_cons, hscan]
    rfl

theorem scan_escaped (done : List Token) (units : List Nat) (chars rest : List Char) :
    (chars.flatMap escapeChar ++ rest).foldlM scan ⟨done, .text units⟩ =
      rest.foldlM scan ⟨done, .text (units ++ chars.flatMap Text.charUnits)⟩ := by
  induction chars generalizing units with
  | nil => rw [List.flatMap_nil, List.flatMap_nil, List.append_nil, List.nil_append]
  | cons c chars ih =>
      rw [List.flatMap_cons, List.flatMap_cons, List.append_assoc, scan_escapeChar, ih,
        List.append_assoc]

theorem scanned_quote (done : List Token) (s : String) (rest : List Char) :
    scanned done ((quote s).toList ++ rest) = scanned (done ++ [.text s]) rest := by
  have hopen : scan ⟨done, .between⟩ '"' = some ⟨done, .text []⟩ := by
    rw [scan, open_, if_neg (by decide), if_neg (by decide), if_pos rfl]
  have hclose : scan ⟨done, .text (s.toList.flatMap Text.charUnits)⟩ '"' =
      some ⟨done ++ [.text s], .between⟩ := by
    rw [scan, if_pos rfl, ofUnits_flatMap, Option.map_some, String.ofList_toList]
  rw [toList_quote, List.cons_append, List.cons_append, scanned, List.foldlM_cons, hopen, Option.bind_eq_bind,
    Option.bind_some, List.append_assoc, scan_escaped, List.nil_append, List.singleton_append,
    List.foldlM_cons, hclose]
  rfl

/-- The characters a word ends before. -/
def delimiters : List Char := blanks ++ marks

/-- A word holds none of the characters that end one or open a text. -/
structure IsWord (word : String) : Prop where
  nonempty : word.toList ≠ []
  unbroken : ∀ c ∈ word.toList, c ∉ blanks ∧ c ∉ marks ∧ c ≠ '"'

instance (word : String) : Decidable (IsWord word) :=
  decidable_of_iff (word.toList ≠ [] ∧ ∀ c ∈ word.toList, c ∉ blanks ∧ c ∉ marks ∧ c ≠ '"')
    ⟨fun h => ⟨h.1, h.2⟩, fun h => ⟨h.nonempty, h.unbroken⟩⟩

theorem scan_word (done : List Token) {chars : List Char}
    (h : ∀ c ∈ chars, c ∉ blanks ∧ c ∉ marks ∧ c ≠ '"') (sofar rest : List Char) :
    (chars ++ rest).foldlM scan ⟨done, .word sofar⟩ =
      rest.foldlM scan ⟨done, .word (sofar ++ chars)⟩ := by
  induction chars generalizing sofar with
  | nil => rw [List.append_nil, List.nil_append]
  | cons c chars ih =>
      obtain ⟨⟨hblank, hmark, hquote⟩, hchars⟩ := List.forall_mem_cons.mp h
      have hscan : scan ⟨done, .word sofar⟩ c = some ⟨done, .word (sofar ++ [c])⟩ := by
        rw [scan, if_neg (fun hc => hc.elim hblank (fun hc => hc.elim hmark hquote))]
      rw [List.cons_append, List.foldlM_cons, hscan, Option.bind_eq_bind, Option.bind_some, ih hchars,
        List.append_assoc, List.singleton_append]

theorem scanned_word (done : List Token) {word : String} (h : IsWord word) {c : Char}
    (hc : c ∈ delimiters) (rest : List Char) :
    scanned done (word.toList ++ c :: rest) = scanned (done ++ [.word word]) (c :: rest) := by
  obtain ⟨d, chars, hword⟩ := List.exists_cons_of_ne_nil h.nonempty
  have hunbroken := h.unbroken
  rw [hword, List.forall_mem_cons] at hunbroken
  obtain ⟨⟨hblank, hmark, hquote⟩, hchars⟩ := hunbroken
  have hopen : scan ⟨done, .between⟩ d = some ⟨done, .word [d]⟩ := by
    rw [scan, open_, if_neg hblank, if_neg hmark, if_neg hquote]
  have hclose : scan ⟨done, .word (d :: chars)⟩ c = some (open_ (done ++ [.word word]) c) := by
    rw [scan, if_pos ((List.mem_append.mp hc).imp_right Or.inl), ← hword, String.ofList_toList]
  rw [hword, List.cons_append, scanned, List.foldlM_cons, hopen, Option.bind_eq_bind,
    Option.bind_some, scan_word done hchars, List.singleton_append, List.foldlM_cons, hclose]
  rfl

/-! ## What a text says -/

def Spelled (text : List Char) (ts : List Token) : Prop :=
  ∀ done c rest, c ∈ delimiters →
    scanned done (text ++ c :: rest) = scanned (done ++ ts) (c :: rest)

/-- The text has the tokens, and the machine reads them as the value. -/
structure Written (read : String → Option Number) (text : String) (v : Value) (ts : List Token) :
    Prop where
  spelled : Spelled text.toList ts
  reads : ∀ frames, ts.foldlM (advance read) ⟨frames, .value⟩ = deliver v frames
  opens : ∃ t rest, ts = t :: rest ∧ t ≠ .mark ']'

theorem foldlM_singleton {α β : Type} (f : β → α → Option β) (b : β) (a : α) :
    [a].foldlM f b = f b a := bind_pure (f b a)

section Written
variable {read : String → Option Number}

theorem written_word {word : String} (hword : IsWord word) {v : Value}
    (hv : wordValue read word = some v) : Written read word v [.word word] where
  spelled := fun done _ rest hc => scanned_word done hword hc rest
  reads := by
    intro frames
    have hstart : advance read ⟨frames, .value⟩ (.word word) =
        (wordValue read word).bind (deliver · frames) := rfl
    rw [foldlM_singleton, hstart, hv, Option.bind_some]
  opens := ⟨_, _, rfl, nofun⟩

theorem written_quote (s : String) : Written read (quote s) (.str s) [.text s] where
  spelled := fun done c rest _ => scanned_quote done s (c :: rest)
  reads := fun _ => foldlM_singleton _ _ _
  opens := ⟨_, _, rfl, nofun⟩

/-- Items on lines of their own, as the machine meets them inside of an array. -/
structure WrittenItems (read : String → Option Number) (depth : Nat) (texts : List String)
    (items : List Value) (ts : List Token) : Prop where
  spelled : Spelled (("," ++ gap depth).intercalate texts).toList ts
  reads : ∀ done frames, (ts ++ [Token.mark ']']).foldlM (advance read) ⟨.array done :: frames, .value⟩ =
    deliver (.arr (done ++ items)) frames
  opens : ∃ t rest, ts = t :: rest ∧ t ≠ .mark ']'

theorem spelled_comma_gap {depth : Nat} {text : List Char} {ts : List Token} (h : Spelled text ts)
    {others : List Char} {us : List Token} (ho : Spelled others us) :
    Spelled (text ++ ',' :: (gap depth).toList ++ others) (ts ++ .mark ',' :: us) := by
  intro done c rest hc
  rw [List.append_assoc, List.append_assoc, List.cons_append, h done ',' _ (by decide),
    scanned_mark _ (by decide), scanned_gap, ho _ c rest hc]
  simp only [List.append_assoc, List.singleton_append]

theorem exists_writtenItems {depth : Nat} (f : Value → String) {items : List Value}
    (hne : items ≠ []) (h : ∀ v ∈ items, ∃ ts, Written read (f v) v ts) :
    ∃ ts, WrittenItems read depth (items.map f) items ts := by
  induction items with
  | nil => exact absurd rfl hne
  | cons v rest ih =>
      obtain ⟨⟨ts, hts⟩, hrest⟩ := List.forall_mem_cons.mp h
      obtain ⟨t, after, rfl, ht⟩ := hts.opens
      cases rest with
      | nil =>
          refine ⟨t :: after, ?_, ?_, t, after, rfl, ht⟩
          · rw [List.map_singleton, String.intercalate_singleton]
            exact hts.spelled
          · intro done frames
            have hdeliver : deliver v (.array done :: frames) =
                some ⟨.array (done ++ [v]) :: frames, .next⟩ := rfl
            rw [List.foldlM_append, hts.reads, hdeliver, Option.bind_eq_bind, Option.bind_some,
              foldlM_singleton]
            rfl
      | cons w rest =>
          obtain ⟨us, hus⟩ := ih (List.cons_ne_nil _ _) hrest
          refine ⟨t :: after ++ .mark ',' :: us, ?_, ?_, t, _, rfl, ht⟩
          · rw [List.map_cons, List.map_cons, toList_comma_intercalate]
            exact spelled_comma_gap hts.spelled hus.spelled
          · intro done frames
            have hdeliver : deliver v (.array done :: frames) =
                some ⟨.array (done ++ [v]) :: frames, .next⟩ := rfl
            have hcomma : advance read ⟨.array (done ++ [v]) :: frames, .next⟩ (.mark ',') =
                some ⟨.array (done ++ [v]) :: frames, .value⟩ := rfl
            rw [List.append_assoc, List.foldlM_append, hts.reads, hdeliver, Option.bind_eq_bind,
              Option.bind_some, List.cons_append, List.foldlM_cons, hcomma, Option.bind_eq_bind,
              Option.bind_some, hus.reads, List.append_assoc]
            rfl

/-- Brackets around nothing. -/
theorem spelled_block_nil {o c : Char} (ho : o ∈ marks) (hc : c ∈ marks) {opening closing : String}
    (hopening : opening.toList = [o]) (hclosing : closing.toList = [c]) (depth : Nat) :
    Spelled (block opening closing depth []).toList [.mark o, .mark c] := by
  intro done d rest _
  rw [block, if_pos rfl, String.toList_append, hopening, hclosing, List.append_assoc,
    List.singleton_append, List.singleton_append, scanned_mark _ ho, scanned_mark _ hc,
    List.append_assoc]
  rfl

/-- A text before a line break ends there. -/
theorem scanned_before_gap {text : List Char} {ts : List Token} (h : Spelled text ts)
    (done : List Token) (depth : Nat) (rest : List Char) :
    scanned done (text ++ ((gap depth).toList ++ rest)) = scanned (done ++ ts) rest := by
  have hgap : (gap depth).toList ++ rest = '\n' :: (List.replicate depth ' ' ++ rest) := by
    rw [gap, String.toList_ofList, List.cons_append]
  rw [hgap, h done '\n' _ (by decide), ← hgap, scanned_gap]

/-- Brackets around lines. -/
theorem spelled_block {o c : Char} (ho : o ∈ marks) (hc : c ∈ marks) {opening closing : String}
    (hopening : opening.toList = [o]) (hclosing : closing.toList = [c]) {depth : Nat}
    {texts : List String} (hne : texts ≠ []) {ts : List Token}
    (h : Spelled (("," ++ gap (depth + 2)).intercalate texts).toList ts) :
    Spelled (block opening closing depth texts).toList (.mark o :: (ts ++ [.mark c])) := by
  intro done d rest _
  rw [block, if_neg hne, String.toList_append, String.toList_append, String.toList_append,
    String.toList_append, hopening, hclosing, List.append_assoc, List.append_assoc,
    List.append_assoc, List.append_assoc, List.singleton_append, List.singleton_append,
    scanned_mark _ ho, scanned_gap, scanned_before_gap h, scanned_mark _ hc, List.append_assoc,
    List.append_assoc]
  rfl

theorem written_items {items : List Value} {f : Nat → Value → String}
    (h : ∀ v ∈ items, ∀ depth, ∃ ts, Written read (f depth v) v ts) (depth : Nat) :
    ∃ ts, Written read (block "[" "]" depth (items.map (f (depth + 2)))) (.arr items) ts := by
  by_cases hne : items = []
  · subst hne
    have hempty := spelled_block_nil (show '[' ∈ marks by decide) (show ']' ∈ marks by decide)
      (show "[".toList = ['['] from rfl) (show "]".toList = [']'] from rfl) depth
    refine ⟨[.mark '[', .mark ']'], hempty, ?_, _, _, rfl, by decide⟩
    intro frames
    have hopen : advance read ⟨frames, .value⟩ (.mark '[') =
        some ⟨.array [] :: frames, .valueOrClose⟩ := rfl
    rw [List.foldlM_cons, hopen, Option.bind_eq_bind, Option.bind_some, foldlM_singleton]
    rfl
  · obtain ⟨ts, hts⟩ : ∃ ts, WrittenItems read (depth + 2) (items.map (f (depth + 2))) items ts :=
      exists_writtenItems (f (depth + 2)) hne (fun v hv => h v hv (depth + 2))
    obtain ⟨t, rest, rfl, ht⟩ := hts.opens
    have hlines : items.map (f (depth + 2)) ≠ [] := fun hc => hne (List.map_eq_nil_iff.mp hc)
    have hblock := spelled_block (show '[' ∈ marks by decide) (show ']' ∈ marks by decide)
      (show "[".toList = ['['] from rfl) (show "]".toList = [']'] from rfl) hlines hts.spelled
    refine ⟨.mark '[' :: (t :: rest ++ [.mark ']']), hblock, ?_, _, _, rfl, by decide⟩
    · intro frames
      have hopen : advance read ⟨frames, .value⟩ (.mark '[') =
          some ⟨.array [] :: frames, .valueOrClose⟩ := rfl
      have hfirst : advance read ⟨.array [] :: frames, .valueOrClose⟩ t =
          advance read ⟨.array [] :: frames, .value⟩ t := if_neg ht
      have hreads := hts.reads [] frames
      rw [List.cons_append, List.foldlM_cons] at hreads
      rw [List.foldlM_cons, hopen, Option.bind_eq_bind, Option.bind_some, List.cons_append,
        List.foldlM_cons, hfirst, hreads]
      rfl

/-! ### Members -/

theorem assign_of_not_mem {fields : List (String × Value)} {key : String}
    (h : key ∉ fields.map Prod.fst) (v : Value) : assign fields key v = fields ++ [(key, v)] := by
  induction fields with
  | nil => rfl
  | cons field rest ih =>
      obtain ⟨name, w⟩ := field
      rw [List.map_cons, List.mem_cons, not_or] at h
      rw [assign, if_neg (fun hn => h.1 hn.symm), ih h.2]
      rfl

theorem spelled_member {text : String} {ts : List Token} (h : Spelled text.toList ts)
    (key : String) : Spelled (quote key ++ ": " ++ text).toList (.text key :: .mark ':' :: ts) := by
  intro done c rest hc
  have hcolon : (": " : String).toList = [':', ' '] := rfl
  rw [String.toList_append, String.toList_append, hcolon, List.append_assoc, List.append_assoc,
    scanned_quote, List.cons_append, scanned_mark _ (by decide), List.singleton_append,
    scanned_blank _ (by decide), h _ c rest hc, List.append_assoc, List.append_assoc]
  rfl

/-- A member as the machine meets it inside of an object that has no such key yet. -/
theorem reads_member {text : String} {v : Value} {ts : List Token} (h : Written read text v ts)
    {key : String} {done : List (String × Value)} (hkey : key ∉ done.map Prod.fst)
    (frames : List Frame) (more : List Token) :
    (.text key :: .mark ':' :: ts ++ more).foldlM (advance read) ⟨.object done :: frames, .key⟩ =
      more.foldlM (advance read) ⟨.object (done ++ [(key, v)]) :: frames, .next⟩ := by
  have hname : advance read ⟨.object done :: frames, .key⟩ (.text key) =
      some ⟨.member done key :: frames, .colon⟩ := rfl
  have hcolon : advance read ⟨.member done key :: frames, .colon⟩ (.mark ':') =
      some ⟨.member done key :: frames, .value⟩ := rfl
  have hdeliver : deliver v (.member done key :: frames) =
      some ⟨.object (done ++ [(key, v)]) :: frames, .next⟩ := by
    rw [deliver, assign_of_not_mem hkey]
  rw [List.cons_append, List.cons_append, List.foldlM_cons, hname, Option.bind_eq_bind,
    Option.bind_some, List.foldlM_cons, hcolon, Option.bind_eq_bind, Option.bind_some,
    List.foldlM_append, h.reads, hdeliver]
  rfl

/-- Members on lines of their own, as the machine meets them inside of an object. -/
structure WrittenMembers (read : String → Option Number) (depth : Nat) (texts : List String)
    (fields : List (String × Value)) (ts : List Token) : Prop where
  spelled : Spelled (("," ++ gap depth).intercalate texts).toList ts
  reads : ∀ done frames, ((done ++ fields).map Prod.fst).Nodup →
    (ts ++ [Token.mark '}']).foldlM (advance read) ⟨.object done :: frames, .key⟩ =
      deliver (.obj (done ++ fields)) frames
  opens : ∃ key rest, ts = .text key :: rest

theorem not_mem_of_nodup_append {done : List (String × Value)} {key : String} {v : Value}
    {rest : List (String × Value)} (h : ((done ++ (key, v) :: rest).map Prod.fst).Nodup) :
    key ∉ done.map Prod.fst := by
  rw [List.map_append, List.map_cons, List.nodup_append] at h
  exact fun hc => h.2.2 key hc key List.mem_cons_self rfl

theorem exists_writtenMembers {depth : Nat} (f : Value → String) {fields : List (String × Value)}
    (hne : fields ≠ []) (h : ∀ field ∈ fields, ∃ ts, Written read (f field.2) field.2 ts) :
    ∃ ts, WrittenMembers read depth
      (fields.map (fun field => quote field.1 ++ ": " ++ f field.2)) fields ts := by
  induction fields with
  | nil => exact absurd rfl hne
  | cons field rest ih =>
      obtain ⟨key, v⟩ := field
      obtain ⟨⟨ts, hts⟩, hrest⟩ := List.forall_mem_cons.mp h
      cases rest with
      | nil =>
          refine ⟨.text key :: .mark ':' :: ts, ?_, ?_, key, _, rfl⟩
          · rw [List.map_singleton, String.intercalate_singleton]
            exact spelled_member hts.spelled key
          · intro done frames hnodup
            rw [reads_member hts (not_mem_of_nodup_append hnodup), foldlM_singleton]
            rfl
      | cons next rest =>
          obtain ⟨us, hus⟩ := ih (List.cons_ne_nil _ _) hrest
          refine ⟨.text key :: .mark ':' :: ts ++ .mark ',' :: us, ?_, ?_, key, _, rfl⟩
          · rw [List.map_cons, List.map_cons, toList_comma_intercalate]
            exact spelled_comma_gap (spelled_member hts.spelled key) hus.spelled
          · intro done frames hnodup
            have hcomma : advance read ⟨.object (done ++ [(key, v)]) :: frames, .next⟩ (.mark ',') =
                some ⟨.object (done ++ [(key, v)]) :: frames, .key⟩ := rfl
            have happend : done ++ (key, v) :: next :: rest = (done ++ [(key, v)]) ++ next :: rest := by
              rw [List.append_assoc]
              rfl
            rw [List.append_assoc, reads_member hts (not_mem_of_nodup_append hnodup),
              List.cons_append, List.foldlM_cons, hcomma, Option.bind_eq_bind, Option.bind_some,
              happend]
            exact hus.reads _ frames (happend ▸ hnodup)

theorem written_members {fields : List (String × Value)} {f : Nat → Value → String}
    (hnodup : (fields.map Prod.fst).Nodup)
    (h : ∀ field ∈ fields, ∀ depth, ∃ ts, Written read (f depth field.2) field.2 ts) (depth : Nat) :
    ∃ ts, Written read (block "\x7b" "\x7d" depth
      (fields.map (fun field => quote field.1 ++ ": " ++ f (depth + 2) field.2))) (.obj fields) ts := by
  by_cases hne : fields = []
  · subst hne
    have hempty := spelled_block_nil (show '{' ∈ marks by decide) (show '}' ∈ marks by decide)
      (show "\x7b".toList = ['{'] from rfl) (show "\x7d".toList = ['}'] from rfl) depth
    refine ⟨[.mark '{', .mark '}'], hempty, ?_, _, _, rfl, by decide⟩
    intro frames
    have hopen : advance read ⟨frames, .value⟩ (.mark '{') =
        some ⟨.object [] :: frames, .keyOrClose⟩ := rfl
    rw [List.foldlM_cons, hopen, Option.bind_eq_bind, Option.bind_some, foldlM_singleton]
    rfl
  · obtain ⟨ts, hts⟩ : ∃ ts, WrittenMembers read (depth + 2)
        (fields.map (fun field => quote field.1 ++ ": " ++ f (depth + 2) field.2)) fields ts :=
      exists_writtenMembers (f (depth + 2)) hne (fun field hfield => h field hfield (depth + 2))
    obtain ⟨key, rest, rfl⟩ := hts.opens
    have hlines : fields.map (fun field => quote field.1 ++ ": " ++ f (depth + 2) field.2) ≠ [] :=
      fun hc => hne (List.map_eq_nil_iff.mp hc)
    have hblock := spelled_block (show '{' ∈ marks by decide) (show '}' ∈ marks by decide)
      (show "\x7b".toList = ['{'] from rfl) (show "\x7d".toList = ['}'] from rfl) hlines hts.spelled
    refine ⟨.mark '{' :: (.text key :: rest ++ [.mark '}']), hblock, ?_, _, _, rfl, by decide⟩
    · intro frames
      have hopen : advance read ⟨frames, .value⟩ (.mark '{') =
          some ⟨.object [] :: frames, .keyOrClose⟩ := rfl
      have hfirst : advance read ⟨.object [] :: frames, .keyOrClose⟩ (.text key) =
          advance read ⟨.object [] :: frames, .key⟩ (.text key) := rfl
      have hreads := hts.reads [] frames hnodup
      rw [List.cons_append, List.foldlM_cons] at hreads
      rw [List.foldlM_cons, hopen, Option.bind_eq_bind, Option.bind_some, List.cons_append,
        List.foldlM_cons, hfirst, hreads]
      rfl

/-! ## Round trip -/

mutual
def numbersOf : Value → List Number
  | .num q => [q]
  | .arr items => numbersOfItems items
  | .obj fields => numbersOfFields fields
  | _ => []

def numbersOfItems : List Value → List Number
  | [] => []
  | v :: rest => numbersOf v ++ numbersOfItems rest

def numbersOfFields : List (String × Value) → List Number
  | [] => []
  | (_, v) :: rest => numbersOf v ++ numbersOfFields rest
end

theorem mem_numbersOf_arr {items : List Value} {q : Number} :
    q ∈ numbersOf (.arr items) ↔ ∃ v ∈ items, q ∈ numbersOf v := by
  rw [numbersOf]
  induction items with
  | nil => simp [numbersOfItems]
  | cons v rest ih =>
      rw [numbersOfItems, List.mem_append, ih]
      simp only [List.mem_cons, exists_eq_or_imp]

theorem mem_numbersOf_obj {fields : List (String × Value)} {q : Number} :
    q ∈ numbersOf (.obj fields) ↔ ∃ field ∈ fields, q ∈ numbersOf field.2 := by
  rw [numbersOf]
  induction fields with
  | nil => simp [numbersOfFields]
  | cons field rest ih =>
      rw [numbersOfFields, List.mem_append, ih]
      simp only [List.mem_cons, exists_eq_or_imp]

theorem numbersOf_cleaned (v : Value) : ∀ q ∈ numbersOf (cleaned v), q ∈ numbersOf v := by
  induction v using Value.induction with
  | arr items ih =>
      intro q hq
      rw [cleaned, cleanedItems_eq_map, mem_numbersOf_arr] at hq
      obtain ⟨w, hw, hq⟩ := hq
      obtain ⟨v, hv, rfl⟩ := List.mem_map.mp hw
      exact mem_numbersOf_arr.mpr ⟨v, hv, ih v hv q hq⟩
  | obj fields ih =>
      intro q hq
      rw [cleaned, mem_numbersOf_obj] at hq
      obtain ⟨field, hfield, hq⟩ := hq
      obtain ⟨v, hmem, _, heq⟩ := exists_of_mem_cleanedFields hfield
      rw [heq] at hq
      exact mem_numbersOf_obj.mpr ⟨_, hmem, ih _ hmem q hq⟩
  | undefined => exact fun _ hq => absurd hq List.not_mem_nil
  | _ => exact fun _ hq => hq

/-- The text of a number is a word, and is read back as the number. -/
structure ReadsBack (rt : Runtime) (read : String → Option Number) (q : Number) : Prop where
  read_eq : read (rt.numberToString q) = some q
  word : IsWord (rt.numberToString q)
  literal : rt.numberToString q ≠ "null" ∧ rt.numberToString q ≠ "true" ∧
    rt.numberToString q ≠ "false"

/-- The text of a JSON value says the value. -/
theorem exists_written {rt : Runtime} (v : Value) :
    IsJson v → (∀ q ∈ numbersOf v, ReadsBack rt read q) →
      ∀ depth, ∃ ts, Written read (prettyOf rt depth v) v ts := by
  induction v using Value.induction with
  | undefined => exact fun hv => hv.elim
  | null =>
      intro _ _ depth
      have hnull : Written read "null" .null [.word "null"] := written_word (by decide) rfl
      exact ⟨_, hnull⟩
  | bool b =>
      intro _ _ depth
      cases b with
      | true =>
          have htrue : Written read "true" (.bool true) [.word "true"] :=
            written_word (by decide) rfl
          exact ⟨_, htrue⟩
      | false =>
          have hfalse : Written read "false" (.bool false) [.word "false"] :=
            written_word (by decide) rfl
          exact ⟨_, hfalse⟩
  | num q =>
      intro _ hnum depth
      have hback := hnum q (by rw [numbersOf]; exact List.mem_singleton.mpr rfl)
      have hv : wordValue read (rt.numberToString q) = some (.num q) := by
        rw [wordValue, if_neg hback.literal.1, if_neg hback.literal.2.1, if_neg hback.literal.2.2,
          hback.read_eq, Option.map_some]
      exact ⟨_, written_word hback.word hv⟩
  | str s => exact fun _ _ depth => ⟨_, written_quote s⟩
  | arr items ih =>
      intro hv hnum depth
      rw [isJson_arr] at hv
      rw [prettyOf, pretty, Option.getD_some, prettyItems_eq_map]
      exact written_items (fun v hmem => ih v hmem (hv v hmem)
        (fun q hq => hnum q (mem_numbersOf_arr.mpr ⟨v, hmem, hq⟩))) depth
  | obj fields ih =>
      intro hv hnum depth
      rw [isJson_obj] at hv
      have hdefined : ∀ field ∈ fields, field.2 ≠ .undefined := by
        intro field hf he
        have hjson := hv.2 field hf
        rw [he] at hjson
        exact hjson
      rw [prettyOf, pretty, Option.getD_some, prettyMembers_eq_map hdefined]
      exact written_members hv.1 (fun field hmem => ih field hmem (hv.2 field hmem)
        (fun q hq => hnum q (mem_numbersOf_obj.mpr ⟨field, hmem, hq⟩))) depth

theorem tokens_of_spelled {text : String} {ts : List Token} (h : Spelled text.toList ts) :
    tokens (text ++ "\n") = some ts := by
  have hscan : scanned [] (text ++ "\n").toList = some ⟨ts, .between⟩ := by
    rw [String.toList_append]
    change scanned [] (text.toList ++ '\n' :: []) = _
    rw [h [] '\n' [] (by decide), scanned_blank _ (by decide)]
    rfl
  rw [scanned] at hscan
  rw [tokens, hscan]

/-- A JSON value that is stored with a line break behind it is read back as it is. -/
theorem parse_prettyOf {rt : Runtime} {v : Value} (hv : IsJson v)
    (hnum : ∀ q ∈ numbersOf v, ReadsBack rt read q) :
    parse read (prettyOf rt 0 v ++ "\n") = .ok v := by
  obtain ⟨ts, hts⟩ := exists_written v hv hnum 0
  rw [parse, tokens_of_spelled hts.spelled, Option.bind_some, hts.reads]
  rfl

end Written

end Admissorium.JavaScript.Json
