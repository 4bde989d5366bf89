import Admissorium.JavaScript.Text

/-!
# Instants and their texts

What `new Date().toISOString()` says of an instant of the years 0 to 9999, and the stamps that
programs cut from it for the names of directories. A stamp that keeps every digit tells any two
instants apart.
-/
namespace Admissorium.JavaScript
set_option autoImplicit false

structure Instant where
  year : Nat
  month : Nat
  day : Nat
  hour : Nat
  minute : Nat
  second : Nat
  millisecond : Nat
  year_lt : year < 10000
  month_le : 1 ≤ month ∧ month ≤ 12
  day_le : 1 ≤ day ∧ day ≤ 31
  hour_lt : hour < 24
  minute_lt : minute < 60
  second_lt : second < 60
  millisecond_lt : millisecond < 1000
  deriving DecidableEq

/-- The last digits of a number, `k` of them. -/
def padded : Nat → Nat → List Char
  | 0, _ => []
  | k + 1, n => padded k (n / 10) ++ [Char.ofNat (48 + n % 10)]

namespace Instant

/-- The fields of an instant with one mark in the time and one before the milliseconds. -/
def spelled (colon point : Char) (t : Instant) : List Char :=
  padded 4 t.year ++ '-' :: (padded 2 t.month ++ '-' :: (padded 2 t.day ++ 'T' ::
    (padded 2 t.hour ++ colon :: (padded 2 t.minute ++ colon :: (padded 2 t.second ++ point ::
      (padded 3 t.millisecond ++ ['Z']))))))

def toISOString (t : Instant) : String := String.ofList (t.spelled ':' '.')

/-- `text.replace(/[:.]/g, "-")`. -/
def dashed (text : String) : String :=
  String.ofList (text.toList.map (fun c => if c = ':' ∨ c = '.' then '-' else c))

/-- `text.replace(/\..+$/, "Z")`: what follows the first point that has the rest of the line
behind it. -/
def cutAtPoint : List Char → List Char
  | [] => []
  | c :: rest =>
      if c = '.' ∧ rest ≠ [] ∧ ∀ d ∈ rest, d ∉ lineTerminators then ['Z'] else c :: cutAtPoint rest

/-- `text.replace(/[-:]/g, "").replace(/\..+$/, "Z")`. -/
def compact (text : String) : String :=
  String.ofList (cutAtPoint (text.toList.filter (fun c => c ≠ '-' ∧ c ≠ ':')))

/-- `text.replace(part, replacement)` for a part of one character: the first one is replaced. -/
def replaceFirst (part replacement : Char) : List Char → List Char
  | [] => []
  | c :: rest => if c = part then replacement :: rest else c :: replaceFirst part replacement rest

end Instant

/-! ## Digits -/

theorem length_padded (k n : Nat) : (padded k n).length = k := by
  induction k generalizing n with
  | zero => rfl
  | succ k ih =>
      rw [padded, List.length_append, ih]
      rfl

theorem digit_toNat : ∀ d < 10, (Char.ofNat (48 + d)).toNat = 48 + d := by decide

theorem digit_isDigit : ∀ d < 10, (Char.ofNat (48 + d)).isDigit = true := by decide

theorem digits_padded (k n : Nat) : ∀ c ∈ padded k n, c.isDigit = true := by
  induction k generalizing n with
  | zero => exact fun _ hc => absurd hc List.not_mem_nil
  | succ k ih =>
      rw [padded, List.forall_mem_append]
      exact ⟨ih (n / 10), List.forall_mem_singleton.mpr (digit_isDigit _ (Nat.mod_lt n (by omega)))⟩

theorem padded_inj {k m n : Nat} (hm : m < 10 ^ k) (hn : n < 10 ^ k) (h : padded k m = padded k n) :
    m = n := by
  induction k generalizing m n with
  | zero => omega
  | succ k ih =>
      have hlength : (padded k (m / 10)).length = (padded k (n / 10)).length := by
        rw [length_padded, length_padded]
      obtain ⟨hhead, hlast⟩ := List.append_inj h hlength
      have hdigit := congrArg Char.toNat (List.cons.inj hlast).1
      rw [digit_toNat _ (by omega), digit_toNat _ (by omega)] at hdigit
      rw [Nat.pow_succ] at hm hn
      have hdiv := ih (by omega) (by omega) hhead
      omega

/-- A number of `k` digits is read off the front of a text. -/
theorem padded_append_inj {k m n : Nat} {u v : List Char} (hm : m < 10 ^ k) (hn : n < 10 ^ k)
    (h : padded k m ++ u = padded k n ++ v) : m = n ∧ u = v := by
  have hlength : (padded k m).length = (padded k n).length := by
    rw [length_padded, length_padded]
  obtain ⟨hhead, hrest⟩ := List.append_inj h hlength
  exact ⟨padded_inj hm hn hhead, hrest⟩

/-- A change of characters that leaves digits alone leaves a number alone. -/
theorem map_padded {f : Char → Char} (hf : ∀ c, c.isDigit = true → f c = c) (k n : Nat) :
    (padded k n).map f = padded k n := by
  have hsame := List.map_congr_left (fun c hc => hf c (digits_padded k n c hc))
  rw [hsame, List.map_id']

theorem filter_padded {p : Char → Bool} (hp : ∀ c, c.isDigit = true → p c = true) (k n : Nat) :
    (padded k n).filter p = padded k n :=
  List.filter_eq_self.mpr (fun c hc => hp c (digits_padded k n c hc))

namespace Instant

/-! ## Stamps -/

section Stamps
variable {t u : Instant} {colon point : Char}

theorem ext_iff_fields : t = u ↔ t.year = u.year ∧ t.month = u.month ∧ t.day = u.day ∧
    t.hour = u.hour ∧ t.minute = u.minute ∧ t.second = u.second ∧
    t.millisecond = u.millisecond := by
  cases t
  cases u
  simp

/-- The time up to the second is the same. -/
def SameSecond (t u : Instant) : Prop :=
  t.year = u.year ∧ t.month = u.month ∧ t.day = u.day ∧ t.hour = u.hour ∧ t.minute = u.minute ∧
    t.second = u.second

instance (t u : Instant) : Decidable (SameSecond t u) := inferInstanceAs (Decidable (_ ∧ _))

theorem spelled_inj (h : t.spelled colon point = u.spelled colon point) : t = u := by
  have hy := t.year_lt
  have hy' := u.year_lt
  obtain ⟨hyear, h⟩ := padded_append_inj (by omega) (by omega) h
  have hm := t.month_le
  have hm' := u.month_le
  obtain ⟨hmonth, h⟩ := padded_append_inj (by omega) (by omega) (List.cons.inj h).2
  have hd := t.day_le
  have hd' := u.day_le
  obtain ⟨hday, h⟩ := padded_append_inj (by omega) (by omega) (List.cons.inj h).2
  have hh := t.hour_lt
  have hh' := u.hour_lt
  obtain ⟨hhour, h⟩ := padded_append_inj (by omega) (by omega) (List.cons.inj h).2
  have hi := t.minute_lt
  have hi' := u.minute_lt
  obtain ⟨hminute, h⟩ := padded_append_inj (by omega) (by omega) (List.cons.inj h).2
  have hs := t.second_lt
  have hs' := u.second_lt
  obtain ⟨hsecond, h⟩ := padded_append_inj (by omega) (by omega) (List.cons.inj h).2
  have hl := t.millisecond_lt
  have hl' := u.millisecond_lt
  obtain ⟨hmillisecond, _⟩ := padded_append_inj (by omega) (by omega) (List.cons.inj h).2
  exact ext_iff_fields.mpr ⟨hyear, hmonth, hday, hhour, hminute, hsecond, hmillisecond⟩

theorem map_spelled {f : Char → Char} (hf : ∀ c, c.isDigit = true → f c = c) (hdash : f '-' = '-')
    (ht : f 'T' = 'T') (hz : f 'Z' = 'Z') :
    (t.spelled colon point).map f = t.spelled (f colon) (f point) := by
  simp only [spelled, List.map_append, List.map_cons, List.map_nil, map_padded hf, hdash, ht, hz]

theorem not_digit {c : Char} (h : c.isDigit = false) {d : Char} (hd : d.isDigit = true) : d ≠ c := by
  rintro rfl
  rw [h] at hd
  cases hd

theorem dashed_eq (t : Instant) : dashed t.toISOString = String.ofList (t.spelled '-' '-') := by
  have hdigits : ∀ c : Char, c.isDigit = true → (if c = ':' ∨ c = '.' then '-' else c) = c := by
    intro c hc
    rw [if_neg (not_or.mpr ⟨not_digit (by decide) hc, not_digit (by decide) hc⟩)]
  rw [dashed, toISOString, String.toList_ofList, map_spelled hdigits rfl rfl rfl]
  rfl

/-- `text.replaceAll(":", "-")`. -/
theorem replaceAll_colons (t : Instant) :
    Text.replaceAll t.toISOString ":" "-" = String.ofList (t.spelled '-' '.') := by
  have hdigits : ∀ c : Char, c.isDigit = true → (if c = ':' then '-' else c) = c :=
    fun c hc => if_neg (not_digit (by decide) hc)
  have hmap : ∀ text : List Char, text.flatMap (fun c => if c = ':' then ['-'] else [c]) =
      text.map (fun c => if c = ':' then '-' else c) := by
    intro text
    rw [List.map_eq_flatMap]
    congr 1
    funext c
    split <;> rfl
  have hcolon : Text.replaceAll t.toISOString ":" "-" =
      String.ofList (Text.replaceFrom [':'] ['-'] 0 t.toISOString.toList) := rfl
  rw [hcolon, Text.replaceFrom_char, hmap, toISOString, String.toList_ofList,
    map_spelled hdigits rfl rfl rfl]
  rfl

theorem replaceFirst_append {part replacement : Char} {before after : List Char}
    (h : part ∉ before) : replaceFirst part replacement (before ++ part :: after) =
      before ++ replacement :: after := by
  induction before with
  | nil => exact if_pos rfl
  | cons c before ih =>
      obtain ⟨hc, hbefore⟩ := not_or.mp (fun hmem => h (List.mem_cons.mpr hmem))
      have hstep : replaceFirst part replacement (c :: (before ++ part :: after)) =
          c :: replaceFirst part replacement (before ++ part :: after) :=
        if_neg (fun he => hc he.symm)
      rw [List.cons_append, hstep, ih hbefore]
      rfl

/-- The time of an instant, up to the milliseconds. -/
def upToSecond (colon : Char) (t : Instant) : List Char :=
  padded 4 t.year ++ '-' :: (padded 2 t.month ++ '-' :: (padded 2 t.day ++ 'T' ::
    (padded 2 t.hour ++ colon :: (padded 2 t.minute ++ colon :: padded 2 t.second))))

theorem spelled_eq (t : Instant) : t.spelled colon point =
    t.upToSecond colon ++ point :: (padded 3 t.millisecond ++ ['Z']) := by
  simp [spelled, upToSecond]

theorem point_not_mem_upToSecond (t : Instant) (h : colon ≠ '.') : '.' ∉ t.upToSecond colon := by
  have hdigits : ∀ k n, '.' ∉ padded k n :=
    fun k n hmem => absurd (digits_padded k n '.' hmem) (by decide)
  simp [upToSecond, hdigits, h.symm]

/-- `text.replaceAll(":", "-").replace(".", "-")`. -/
theorem replaceFirst_spelled (t : Instant) :
    replaceFirst '.' '-' (t.spelled '-' '.') = t.spelled '-' '-' := by
  rw [spelled_eq, replaceFirst_append (point_not_mem_upToSecond t (by decide)), spelled_eq]

/-- The digits of an instant up to the second. -/
def digitsToSecond (t : Instant) : List Char :=
  padded 4 t.year ++ (padded 2 t.month ++ (padded 2 t.day ++ 'T' ::
    (padded 2 t.hour ++ (padded 2 t.minute ++ padded 2 t.second))))

theorem cutAtPoint_append {before after : List Char} (hbefore : '.' ∉ before) (hne : after ≠ [])
    (hline : ∀ d ∈ after, d ∉ lineTerminators) :
    cutAtPoint (before ++ '.' :: after) = before ++ ['Z'] := by
  induction before with
  | nil => exact if_pos ⟨rfl, hne, hline⟩
  | cons c before ih =>
      obtain ⟨hc, hrest⟩ := not_or.mp (fun hmem => hbefore (List.mem_cons.mpr hmem))
      have hstep : cutAtPoint (c :: (before ++ '.' :: after)) =
          c :: cutAtPoint (before ++ '.' :: after) := if_neg (fun he => hc he.1.symm)
      rw [List.cons_append, hstep, ih hrest]
      rfl

theorem compact_eq (t : Instant) :
    compact t.toISOString = String.ofList (t.digitsToSecond ++ ['Z']) := by
  have hkept : ∀ c : Char, c.isDigit = true → decide (c ≠ '-' ∧ c ≠ ':') = true := fun c hc =>
    decide_eq_true ⟨not_digit (by decide) hc, not_digit (by decide) hc⟩
  have hfilter : (t.spelled ':' '.').filter (fun c => c ≠ '-' ∧ c ≠ ':') =
      t.digitsToSecond ++ '.' :: (padded 3 t.millisecond ++ ['Z']) := by
    have hmarks : ∀ c ∈ ['-', ':'], decide (c ≠ '-' ∧ c ≠ ':') = false := by decide
    have hletters : ∀ c ∈ ['T', '.', 'Z'], decide (c ≠ '-' ∧ c ≠ ':') = true := by decide
    simp only [spelled, digitsToSecond, List.filter_append, List.filter_cons, filter_padded hkept,
      hmarks _ List.mem_cons_self, hmarks ':' (by decide), hletters _ List.mem_cons_self,
      hletters '.' (by decide), hletters 'Z' (by decide), List.filter_nil, List.append_assoc,
      List.cons_append, Bool.false_eq_true, if_true, if_false]
  have hdigits : ∀ k n, '.' ∉ padded k n :=
    fun k n hmem => absurd (digits_padded k n '.' hmem) (by decide)
  rw [compact, toISOString, String.toList_ofList, hfilter, cutAtPoint_append]
  · simp [digitsToSecond, hdigits]
  · simp
  · have hdigit : ∀ c ∈ lineTerminators, c.isDigit = false := by decide
    have hz : 'Z' ∉ lineTerminators := by decide
    rw [List.forall_mem_append]
    refine ⟨fun d hd hline => ?_, List.forall_mem_singleton.mpr hz⟩
    have hfalse := hdigit d hline
    rw [digits_padded _ _ d hd] at hfalse
    cases hfalse

theorem digitsToSecond_inj {v w : List Char}
    (h : t.digitsToSecond ++ v = u.digitsToSecond ++ w) : SameSecond t u := by
  simp only [digitsToSecond, List.append_assoc, List.cons_append] at h
  have hy := t.year_lt
  have hy' := u.year_lt
  obtain ⟨hyear, h⟩ := padded_append_inj (by omega) (by omega) h
  have hm := t.month_le
  have hm' := u.month_le
  obtain ⟨hmonth, h⟩ := padded_append_inj (by omega) (by omega) h
  have hd := t.day_le
  have hd' := u.day_le
  obtain ⟨hday, h⟩ := padded_append_inj (by omega) (by omega) h
  have hh := t.hour_lt
  have hh' := u.hour_lt
  obtain ⟨hhour, h⟩ := padded_append_inj (by omega) (by omega) (List.cons.inj h).2
  have hi := t.minute_lt
  have hi' := u.minute_lt
  obtain ⟨hminute, h⟩ := padded_append_inj (by omega) (by omega) h
  have hs := t.second_lt
  have hs' := u.second_lt
  obtain ⟨hsecond, _⟩ := padded_append_inj (by omega) (by omega) h
  exact ⟨hyear, hmonth, hday, hhour, hminute, hsecond⟩

/-- The compact stamp drops the milliseconds and nothing else. -/
theorem compact_eq_iff :
    compact t.toISOString = compact u.toISOString ↔ SameSecond t u := by
  rw [compact_eq, compact_eq]
  constructor
  · intro h
    exact digitsToSecond_inj (String.ofList_injective h)
  · intro h
    obtain ⟨hyear, hmonth, hday, hhour, hminute, hsecond⟩ := h
    rw [digitsToSecond, digitsToSecond, hyear, hmonth, hday, hhour, hminute, hsecond]

/-- The characters of stamps. -/
theorem mem_spelled {c : Char} (h : c ∈ t.spelled colon point) :
    c.isDigit = true ∨ c = '-' ∨ c = 'T' ∨ c = 'Z' ∨ c = colon ∨ c = point := by
  simp only [spelled, List.mem_append, List.mem_cons, List.not_mem_nil, or_false] at h
  have hdigits : ∀ k n, c ∈ padded k n → c.isDigit = true := fun k n hmem => digits_padded k n c hmem
  grind

theorem mem_digitsToSecond {c : Char} (h : c ∈ t.digitsToSecond) : c.isDigit = true ∨ c = 'T' := by
  simp only [digitsToSecond, List.mem_append, List.mem_cons] at h
  have hdigits : ∀ k n, c ∈ padded k n → c.isDigit = true := fun k n hmem => digits_padded k n c hmem
  grind

end Stamps
end Instant
end Admissorium.JavaScript
