import Admissorium.JavaScript.JsonRoundTrip

/-!
# What is parsed

Whatever text is parsed, the result is a JSON value: no member is undefined, no object has a key
twice, and every number in it was read off a numeral. The machine keeps this of all it has
collected so far.
-/
namespace Admissorium.JavaScript.Json
set_option autoImplicit false

/-- A JSON value with numbers that are read off some text. -/
structure Parsed (read : String → Option Number) (v : Value) : Prop where
  isJson : IsJson v
  numbers : ∀ q ∈ numbersOf v, ∃ text, read text = some q

/-- The fields of an object that is being read. -/
structure ParsedFields (read : String → Option Number) (fields : List (String × Value)) : Prop where
  nodup : (fields.map Prod.fst).Nodup
  values : ∀ field ∈ fields, Parsed read field.2

def ParsedFrame (read : String → Option Number) : Frame → Prop
  | .array items => ∀ v ∈ items, Parsed read v
  | .object fields => ParsedFields read fields
  | .member fields _ => ParsedFields read fields

/-- What the machine has collected is parsed. -/
structure ParsedReader (read : String → Option Number) (reader : Reader) : Prop where
  frames : ∀ frame ∈ reader.frames, ParsedFrame read frame
  complete : ∀ v, reader.expect = .complete v → Parsed read v

section Parsed
variable {read : String → Option Number} {fields : List (String × Value)} {v : Value}
  {frames : List Frame} {reader : Reader}

theorem parsed_str (s : String) : Parsed read (.str s) :=
  ⟨trivial, fun _ hq => absurd hq List.not_mem_nil⟩

theorem parsed_bool (b : Bool) : Parsed read (.bool b) :=
  ⟨trivial, fun _ hq => absurd hq List.not_mem_nil⟩

theorem parsed_arr {items : List Value} (h : ∀ v ∈ items, Parsed read v) : Parsed read (.arr items) where
  isJson := (isJson_arr items).mpr (fun v hv => (h v hv).isJson)
  numbers := by
    intro q hq
    obtain ⟨v, hv, hmem⟩ := mem_numbersOf_arr.mp hq
    exact (h v hv).numbers q hmem

theorem parsed_obj (h : ParsedFields read fields) : Parsed read (.obj fields) where
  isJson := (isJson_obj fields).mpr ⟨h.nodup, fun field hf => (h.values field hf).isJson⟩
  numbers := by
    intro q hq
    obtain ⟨field, hf, hmem⟩ := mem_numbersOf_obj.mp hq
    exact (h.values field hf).numbers q hmem

theorem parsed_wordValue {word : String} (h : wordValue read word = some v) : Parsed read v := by
  unfold wordValue at h
  split at h
  · cases h
    exact ⟨trivial, fun _ hq => absurd hq List.not_mem_nil⟩
  · split at h
    · cases h
      exact parsed_bool true
    · split at h
      · cases h
        exact parsed_bool false
      · obtain ⟨q, hread, rfl⟩ := Option.map_eq_some_iff.mp h
        refine ⟨trivial, fun q' hq => ?_⟩
        obtain rfl := List.mem_singleton.mp hq
        exact ⟨word, hread⟩

/-- A member replaces the one with its key, or is the last. -/
theorem mem_assign {key : String} {field : String × Value} (h : field ∈ assign fields key v) :
    field = (key, v) ∨ field ∈ fields := by
  induction fields with
  | nil => exact Or.inl (List.mem_singleton.mp h)
  | cons other rest ih =>
      obtain ⟨name, w⟩ := other
      rw [assign] at h
      split at h
      · rename_i hname
        rcases List.mem_cons.mp h with rfl | hrest
        · exact Or.inl (by rw [hname])
        · exact Or.inr (List.mem_cons_of_mem _ hrest)
      · rcases List.mem_cons.mp h with rfl | hrest
        · exact Or.inr List.mem_cons_self
        · exact (ih hrest).imp_right (List.mem_cons_of_mem _)

theorem nodup_assign {key : String} (h : (fields.map Prod.fst).Nodup) :
    ((assign fields key v).map Prod.fst).Nodup := by
  induction fields with
  | nil => exact List.nodup_singleton key
  | cons other rest ih =>
      obtain ⟨name, w⟩ := other
      obtain ⟨hname, hrest⟩ := List.nodup_cons.mp h
      rw [assign]
      split
      · exact List.nodup_cons.mpr ⟨hname, hrest⟩
      · rename_i hne
        refine List.nodup_cons.mpr ⟨fun hmem => ?_, ih hrest⟩
        obtain ⟨field, hfield, hkey⟩ := List.mem_map.mp hmem
        rcases mem_assign hfield with rfl | hold
        · exact hne hkey.symm
        · exact hname (List.mem_map.mpr ⟨field, hold, hkey⟩)

theorem parsedFields_assign {key : String} (h : ParsedFields read fields) (hv : Parsed read v) :
    ParsedFields read (assign fields key v) where
  nodup := nodup_assign h.nodup
  values := by
    intro field hfield
    rcases mem_assign hfield with rfl | hold
    · exact hv
    · exact h.values field hold

/-! ## One step -/

theorem parsedReader_of_frames {expect : Expect} (h : ∀ frame ∈ frames, ParsedFrame read frame)
    (hexpect : ∀ v, expect ≠ .complete v) : ParsedReader read ⟨frames, expect⟩ :=
  ⟨h, fun v he => absurd he (hexpect v)⟩

theorem parsed_deliver (hv : Parsed read v) (h : ∀ frame ∈ frames, ParsedFrame read frame)
    (hdeliver : deliver v frames = some reader) : ParsedReader read reader := by
  cases frames with
  | nil =>
      cases hdeliver
      refine ⟨fun _ hf => absurd hf List.not_mem_nil, fun w hw => ?_⟩
      cases hw
      exact hv
  | cons frame rest =>
      obtain ⟨hframe, hrest⟩ := List.forall_mem_cons.mp h
      cases frame with
      | array items =>
          cases hdeliver
          refine parsedReader_of_frames (List.forall_mem_cons.mpr ⟨?_, hrest⟩) nofun
          exact List.forall_mem_append.mpr ⟨hframe, List.forall_mem_singleton.mpr hv⟩
      | object fields => cases hdeliver
      | member fields key =>
          cases hdeliver
          exact parsedReader_of_frames
            (List.forall_mem_cons.mpr ⟨parsedFields_assign hframe hv, hrest⟩) nofun

theorem parsed_start {token : Token} (h : ∀ frame ∈ frames, ParsedFrame read frame)
    (hstart : start read frames token = some reader) : ParsedReader read reader := by
  cases token with
  | text s => exact parsed_deliver (parsed_str s) h hstart
  | word word =>
      obtain ⟨v, hv, hdeliver⟩ := Option.bind_eq_some_iff.mp hstart
      exact parsed_deliver (parsed_wordValue hv) h hdeliver
  | mark c =>
      rw [start] at hstart
      split at hstart
      · cases hstart
        exact parsedReader_of_frames
          (List.forall_mem_cons.mpr ⟨fun _ hv => absurd hv List.not_mem_nil, h⟩) nofun
      · split at hstart
        · cases hstart
          exact parsedReader_of_frames (List.forall_mem_cons.mpr
            ⟨⟨List.nodup_nil, fun _ hf => absurd hf List.not_mem_nil⟩, h⟩) nofun
        · cases hstart

theorem parsed_close {c : Char} (h : ∀ frame ∈ frames, ParsedFrame read frame)
    (hclose : close c frames = some reader) : ParsedReader read reader := by
  cases frames with
  | nil => cases hclose
  | cons frame rest =>
      obtain ⟨hframe, hrest⟩ := List.forall_mem_cons.mp h
      cases frame with
      | array items =>
          rw [close] at hclose
          split at hclose
          · exact parsed_deliver (parsed_arr hframe) hrest hclose
          · cases hclose
      | object fields =>
          rw [close] at hclose
          split at hclose
          · exact parsed_deliver (parsed_obj hframe) hrest hclose
          · cases hclose
      | member fields key => cases hclose

theorem parsed_keyed {key : String} (h : ∀ frame ∈ frames, ParsedFrame read frame)
    (hkeyed : keyed key frames = some reader) : ParsedReader read reader := by
  cases frames with
  | nil => cases hkeyed
  | cons frame rest =>
      obtain ⟨hframe, hrest⟩ := List.forall_mem_cons.mp h
      cases frame with
      | object fields =>
          cases hkeyed
          exact parsedReader_of_frames (List.forall_mem_cons.mpr ⟨hframe, hrest⟩) nofun
      | array items => cases hkeyed
      | member fields key => cases hkeyed

theorem parsed_goOn (h : ∀ frame ∈ frames, ParsedFrame read frame)
    (hgo : goOn frames = some reader) : ParsedReader read reader := by
  unfold goOn at hgo
  split at hgo
  · cases hgo
    exact parsedReader_of_frames h nofun
  · cases hgo
    exact parsedReader_of_frames h nofun
  · cases hgo

theorem parsed_advance {token : Token} {after : Reader} (h : ParsedReader read reader)
    (hstep : advance read reader token = some after) : ParsedReader read after := by
  unfold advance at hstep
  split at hstep
  case h_1 => exact parsed_start h.frames hstep
  case h_2 =>
    split at hstep
    · exact parsed_close h.frames hstep
    · exact parsed_start h.frames hstep
  case h_3 =>
    split at hstep
    · exact parsed_keyed h.frames hstep
    · exact parsed_close h.frames hstep
    · cases hstep
  case h_4 =>
    split at hstep
    · exact parsed_keyed h.frames hstep
    · cases hstep
  case h_5 =>
    split at hstep
    · cases hstep
      exact parsedReader_of_frames h.frames nofun
    · cases hstep
  case h_6 =>
    split at hstep
    · split at hstep
      · exact parsed_goOn h.frames hstep
      · exact parsed_close h.frames hstep
    · cases hstep
  case h_7 => cases hstep

theorem parsed_foldlM {tokens : List Token} {after : Reader} (h : ParsedReader read reader)
    (hrun : tokens.foldlM (advance read) reader = some after) : ParsedReader read after := by
  induction tokens generalizing reader with
  | nil =>
      cases hrun
      exact h
  | cons token rest ih =>
      rw [List.foldlM_cons] at hrun
      obtain ⟨between, hstep, hrest⟩ := Option.bind_eq_some_iff.mp hrun
      exact ih (parsed_advance h hstep) hrest

/-- A text that is parsed has a JSON value. -/
theorem parsed_of_parse {text : String} (h : parse read text = .ok v) : Parsed read v := by
  unfold parse at h
  split at h
  case h_1 frames w hrun =>
    cases h
    obtain ⟨tokens, _, hfold⟩ := Option.bind_eq_some_iff.mp hrun
    have hinit : ParsedReader read ⟨[], .value⟩ :=
      parsedReader_of_frames (fun _ hf => absurd hf List.not_mem_nil) nofun
    exact (parsed_foldlM hinit hfold).complete _ rfl
  case h_2 => cases h

end Parsed

end Admissorium.JavaScript.Json
