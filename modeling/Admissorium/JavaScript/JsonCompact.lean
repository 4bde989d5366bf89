import Admissorium.JavaScript.JsonRoundTrip

/-!
# Reading a compact text back

The compact text of a value and its text on several lines differ by blanks between tokens
only, so the scanner cuts both into the same tokens. What is parsed from the one is
therefore parsed from the other.
-/
namespace Admissorium.JavaScript.Json
set_option autoImplicit false

/-- Two texts that are cut into the same tokens. -/
def Alike (text other : List Char) : Prop := ∃ ts, Spelled text ts ∧ Spelled other ts

/-! ## Texts that differ by line breaks -/

section Layout

theorem spelled_word {word : String} (h : IsWord word) : Spelled word.toList [.word word] :=
  fun done _ rest hc => scanned_word done h hc rest

theorem spelled_quote (s : String) : Spelled (quote s).toList [.text s] :=
  fun done c rest _ => scanned_quote done s (c :: rest)

theorem alike_self {text : List Char} {ts : List Token} (h : Spelled text ts) : Alike text text :=
  ⟨ts, h, h⟩

theorem spelled_comma {text others : List Char} {ts us : List Token} (h : Spelled text ts)
    (ho : Spelled others us) : Spelled (text ++ ',' :: others) (ts ++ .mark ',' :: us) := by
  intro done c rest hc
  rw [List.append_assoc, List.cons_append, h done ',' _ (by decide), scanned_mark _ (by decide),
    ho _ c rest hc]
  simp only [List.append_assoc, List.singleton_append]

/-- Lists of such texts are alike, whether on lines of their own or not. -/
theorem alike_intercalate (depth : Nat) {texts others : List String}
    (h : List.Forall₂ (fun text other => Alike text.toList other.toList) texts others)
    (hne : texts ≠ []) : Alike (("," ++ gap depth).intercalate texts).toList
      (",".intercalate others).toList := by
  induction h with
  | nil => exact absurd rfl hne
  | @cons text other texts others hhead htail ih =>
      cases htail with
      | nil =>
          rw [String.intercalate_singleton, String.intercalate_singleton]
          exact hhead
      | @cons next next' texts others hnext hrest =>
          obtain ⟨ts, hts, hts'⟩ := hhead
          obtain ⟨us, hus, hus'⟩ := ih (List.cons_ne_nil _ _)
          refine ⟨ts ++ .mark ',' :: us, ?_, ?_⟩
          · rw [toList_comma_intercalate]
            exact spelled_comma_gap hts hus
          · rw [String.intercalate_cons_cons, String.toList_append, String.toList_append,
              List.append_assoc]
            exact spelled_comma hts' hus'

/-- So are brackets around them. -/
theorem alike_block {o c : Char} (ho : o ∈ marks) (hc : c ∈ marks) {opening closing : String}
    (hopening : opening.toList = [o]) (hclosing : closing.toList = [c]) (depth : Nat)
    {texts others : List String}
    (h : List.Forall₂ (fun text other => Alike text.toList other.toList) texts others) :
    Alike (block opening closing depth texts).toList
      (opening ++ ",".intercalate others ++ closing).toList := by
  have hcompact : (opening ++ ",".intercalate others ++ closing).toList =
      o :: ((",".intercalate others).toList ++ [c]) := by
    rw [String.toList_append, String.toList_append, hopening, hclosing, List.singleton_append,
      List.cons_append]
  by_cases hne : texts = []
  · subst hne
    obtain rfl := List.forall₂_nil_left_iff.mp h
    refine ⟨[.mark o, .mark c], spelled_block_nil ho hc hopening hclosing depth, ?_⟩
    intro done d rest _
    rw [hcompact]
    change scanned done (o :: c :: d :: rest) = _
    rw [scanned_mark _ ho, scanned_mark _ hc, List.append_assoc]
    rfl
  · obtain ⟨ts, hts, hts'⟩ := alike_intercalate (depth + 2) h hne
    refine ⟨.mark o :: (ts ++ [.mark c]), spelled_block ho hc hopening hclosing hne hts, ?_⟩
    intro done d rest _
    have hclose : c ∈ delimiters := List.mem_append_right _ hc
    rw [hcompact, List.cons_append, scanned_mark _ ho, List.append_assoc, List.singleton_append,
      hts' _ c _ hclose, scanned_mark _ hc, List.append_assoc, List.append_assoc]
    rfl

/-- And a member, with a blank behind its colon or without. -/
theorem alike_member {text other : String} (h : Alike text.toList other.toList) (key : String) :
    Alike (quote key ++ ": " ++ text).toList (quote key ++ ":" ++ other).toList := by
  obtain ⟨ts, hts, hts'⟩ := h
  refine ⟨.text key :: .mark ':' :: ts, spelled_member hts key, ?_⟩
  intro done c rest hc
  have hcolon : (":" : String).toList = [':'] := rfl
  rw [String.toList_append, String.toList_append, hcolon, List.append_assoc, List.append_assoc,
    scanned_quote, List.singleton_append, scanned_mark _ (by decide), hts' _ c rest hc,
    List.append_assoc, List.append_assoc]
  rfl

end Layout

/-! ## The two texts of a value -/

section Values
variable {rt : Runtime}

theorem stringify_of_defined {v : Value} (h : v ≠ .undefined) :
    stringify rt v = some (textOf rt v) := by
  cases v with
  | undefined => exact absurd rfl h
  | _ => rfl

theorem alike_members {depth : Nat} {fields : List (String × Value)}
    (h : ∀ field ∈ fields, Alike (prettyOf rt depth field.2).toList (textOf rt field.2).toList) :
    List.Forall₂ (fun text other => Alike text.toList other.toList) (prettyMembers rt depth fields)
      (members rt fields) := by
  induction fields with
  | nil => exact .nil
  | cons field rest ih =>
      obtain ⟨key, v⟩ := field
      obtain ⟨hv, hrest⟩ := List.forall_mem_cons.mp h
      by_cases hundefined : v = .undefined
      · subst hundefined
        exact ih hrest
      · rw [prettyMembers, members, pretty_eq_prettyOf hundefined,
          stringify_of_defined hundefined]
        exact .cons (alike_member hv key) (ih hrest)

/-- A value has both texts alike, if the texts of its numbers are words. -/
theorem alike_textOf (v : Value) : (∀ q ∈ numbersOf v, IsWord (rt.numberToString q)) →
    ∀ depth, Alike (prettyOf rt depth v).toList (textOf rt v).toList := by
  have hnull : Alike "null".toList "null".toList := alike_self (spelled_word (by decide))
  induction v using Value.induction with
  | undefined => exact fun _ _ => hnull
  | null => exact fun _ _ => hnull
  | bool b =>
      intro _ depth
      cases b with
      | true =>
          have htrue : Alike "true".toList "true".toList := alike_self (spelled_word (by decide))
          exact htrue
      | false =>
          have hfalse : Alike "false".toList "false".toList := alike_self (spelled_word (by decide))
          exact hfalse
  | num q =>
      intro hnum depth
      exact alike_self (spelled_word (hnum q (by rw [numbersOf]; exact List.mem_singleton.mpr rfl)))
  | str s => exact fun _ _ => alike_self (spelled_quote s)
  | arr items ih =>
      intro hnum depth
      have hitems : List.Forall₂ (fun text other => Alike text.toList other.toList)
          (items.map (prettyOf rt (depth + 2))) (items.map (textOf rt)) := by
        rw [List.forall₂_map_left_iff, List.forall₂_map_right_iff, List.forall₂_same]
        exact fun v hv => ih v hv (fun q hq => hnum q (mem_numbersOf_arr.mpr ⟨v, hv, hq⟩)) _
      rw [prettyOf, pretty, Option.getD_some, prettyItems_eq_map, textOf, stringify,
        Option.getD_some, elements_eq_map]
      exact alike_block (by decide) (by decide) rfl rfl depth hitems
  | obj fields ih =>
      intro hnum depth
      rw [prettyOf, pretty, Option.getD_some, textOf, stringify, Option.getD_some]
      exact alike_block (by decide) (by decide) rfl rfl depth (alike_members fun field hfield =>
        ih field hfield (fun q hq => hnum q (mem_numbersOf_obj.mpr ⟨field, hfield, hq⟩)) _)

/-- A line break at the end of a text adds no token. -/
theorem tokens_append_break (text : String) : tokens (text ++ "\n") = tokens text := by
  have hbreak : ("\n" : String).toList = ['\n'] := rfl
  unfold tokens
  rw [String.toList_append, hbreak, List.foldlM_append]
  cases text.toList.foldlM scan ⟨[], .between⟩ with
  | none => rfl
  | some state =>
      obtain ⟨done, mode⟩ := state
      cases mode <;> rfl

/-- A compact text is read as the value without its `undefined` members. -/
theorem parse_textOf {read : String → Option Number} {v : Value} (hloose : Loose v)
    (hnum : ∀ q ∈ numbersOf v, ReadsBack rt read q) : parse read (textOf rt v) = .ok (cleaned v) := by
  obtain ⟨ts, hpretty, hcompact⟩ := alike_textOf v (fun q hq => (hnum q hq).word) 0
  have htokens : tokens (textOf rt v) = tokens (prettyOf rt 0 v ++ "\n") := by
    rw [← tokens_append_break, tokens_of_spelled hcompact, tokens_of_spelled hpretty]
  rw [parse, htokens, ← prettyOf_cleaned]
  exact parse_prettyOf (isJson_cleaned v hloose) fun q hq => hnum q (numbersOf_cleaned v q hq)

end Values

end Admissorium.JavaScript.Json
