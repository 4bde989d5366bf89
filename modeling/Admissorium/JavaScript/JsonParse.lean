import Admissorium.JavaScript.JsonText

/-!
# `JSON.parse`

A text is cut into tokens by a scanner that goes over it once, and the tokens are read by a
machine that keeps the arrays and objects it is inside of. What a word other than `null`,
`true` and `false` stands for is asked of a reader of numerals. A text with half a surrogate
pair is refused, as no text here can hold one, and an object keeps its members in the order
they are written in.
-/
namespace Admissorium.JavaScript.Json
set_option autoImplicit false

/-! ## Code units -/

/-- The characters some UTF-16 code units spell, if they spell any. -/
def ofUnits : List Nat → Option (List Char)
  | [] => some []
  | [u] => if u < 0xD800 ∨ 0xDFFF < u then some [Char.ofNat u] else none
  | u :: low :: rest =>
      if u < 0xD800 ∨ 0xDFFF < u then (ofUnits (low :: rest)).map (Char.ofNat u :: ·)
      else if u < 0xDC00 ∧ 0xDC00 ≤ low ∧ low ≤ 0xDFFF then
        (ofUnits rest).map (Char.ofNat (0x10000 + (u - 0xD800) * 0x400 + (low - 0xDC00)) :: ·)
      else none

theorem ofUnits_cons {u : Nat} (h : u < 0xD800 ∨ 0xDFFF < u) (rest : List Nat) :
    ofUnits (u :: rest) = (ofUnits rest).map (Char.ofNat u :: ·) := by
  cases rest with
  | nil => simp only [ofUnits, if_pos h, Option.map_some]
  | cons low rest => rw [ofUnits, if_pos h]

theorem ofUnits_charUnits (c : Char) (rest : List Nat) :
    ofUnits (Text.charUnits c ++ rest) = (ofUnits rest).map (c :: ·) := by
  have hrange : c.toNat < 0xD800 ∨ 0xDFFF < c.toNat ∧ c.toNat < 0x110000 := c.valid
  rw [Text.charUnits]
  by_cases hc : c.toNat < 0x10000
  · rw [if_pos hc, List.singleton_append, ofUnits_cons (by omega), Char.ofNat_toNat]
  · have hpair : 0x10000 + (0xD800 + (c.toNat - 0x10000) / 0x400 - 0xD800) * 0x400 +
        (0xDC00 + (c.toNat - 0x10000) % 0x400 - 0xDC00) = c.toNat := by omega
    rw [if_neg hc, List.cons_append, List.singleton_append, ofUnits, if_neg (by omega),
      if_pos (by omega), hpair, Char.ofNat_toNat]

theorem ofUnits_flatMap (chars : List Char) : ofUnits (chars.flatMap Text.charUnits) = some chars := by
  induction chars with
  | nil => rfl
  | cons c rest ih => rw [List.flatMap_cons, ofUnits_charUnits, ih]; rfl

/-! ## The scanner -/

inductive Token where
  | mark (c : Char)
  | text (s : String)
  | word (s : String)
  deriving DecidableEq, Repr

def blanks : List Char := [' ', '\n', '\r', '\t']
def marks : List Char := ['[', ']', '{', '}', ',', ':']

/-- Where the scanner is: between tokens, in a word, in a text, after a backslash in a text, or
in the four digits of a code unit. -/
inductive Mode where
  | between
  | word (chars : List Char)
  | text (units : List Nat)
  | escape (units : List Nat)
  | code (units : List Nat) (digits unit : Nat)

structure Scanner where
  tokens : List Token
  mode : Mode

def escapes : List (Char × Nat) :=
  [('"', 34), ('\\', 92), ('/', 47), ('b', 8), ('f', 12), ('n', 10), ('r', 13), ('t', 9)]

def hexUnit (c : Char) : Option Nat :=
  if c.isDigit then some (c.toNat - 48)
  else if 97 ≤ c.toNat ∧ c.toNat ≤ 102 then some (c.toNat - 87)
  else if 65 ≤ c.toNat ∧ c.toNat ≤ 70 then some (c.toNat - 55)
  else none

/-- A character between two tokens. -/
def open_ (tokens : List Token) (c : Char) : Scanner :=
  if c ∈ blanks then ⟨tokens, .between⟩
  else if c ∈ marks then ⟨tokens ++ [.mark c], .between⟩
  else if c = '"' then ⟨tokens, .text []⟩
  else ⟨tokens, .word [c]⟩

def scan : Scanner → Char → Option Scanner
  | ⟨tokens, .between⟩, c => some (open_ tokens c)
  | ⟨tokens, .word chars⟩, c =>
      if c ∈ blanks ∨ c ∈ marks ∨ c = '"' then some (open_ (tokens ++ [.word (.ofList chars)]) c)
      else some ⟨tokens, .word (chars ++ [c])⟩
  | ⟨tokens, .text units⟩, c =>
      if c = '"' then (ofUnits units).map (fun chars => ⟨tokens ++ [.text (.ofList chars)], .between⟩)
      else if c = '\\' then some ⟨tokens, .escape units⟩
      else if c.toNat < 32 then none
      else some ⟨tokens, .text (units ++ Text.charUnits c)⟩
  | ⟨tokens, .escape units⟩, c =>
      match escapes.lookup c with
      | some unit => some ⟨tokens, .text (units ++ [unit])⟩
      | none => if c = 'u' then some ⟨tokens, .code units 4 0⟩ else none
  | ⟨tokens, .code units digits unit⟩, c =>
      (hexUnit c).map (fun digit =>
        if digits = 1 then ⟨tokens, .text (units ++ [unit * 16 + digit])⟩
        else ⟨tokens, .code units (digits - 1) (unit * 16 + digit)⟩)

def tokens (text : String) : Option (List Token) :=
  match text.toList.foldlM scan ⟨[], .between⟩ with
  | some ⟨tokens, .between⟩ => some tokens
  | some ⟨tokens, .word chars⟩ => some (tokens ++ [.word (.ofList chars)])
  | _ => none

/-! ## The machine -/

/-- What the machine is inside of; `member` waits for the value of a key. -/
inductive Frame where
  | array (items : List Value)
  | object (fields : List (String × Value))
  | member (fields : List (String × Value)) (key : String)

inductive Expect where
  | value
  | valueOrClose
  | keyOrClose
  | key
  | colon
  | next
  | complete (v : Value)

structure Reader where
  frames : List Frame
  expect : Expect

/-- A later member takes the place of an earlier one with its key. -/
def assign : List (String × Value) → String → Value → List (String × Value)
  | [], key, v => [(key, v)]
  | (name, w) :: rest, key, v =>
      if name = key then (name, v) :: rest else (name, w) :: assign rest key v

/-- A value is complete. -/
def deliver (v : Value) : List Frame → Option Reader
  | [] => some ⟨[], .complete v⟩
  | .array items :: rest => some ⟨.array (items ++ [v]) :: rest, .next⟩
  | .member fields key :: rest => some ⟨.object (assign fields key v) :: rest, .next⟩
  | .object _ :: _ => none

def wordValue (read : String → Option Number) (word : String) : Option Value :=
  if word = "null" then some .null
  else if word = "true" then some (.bool true)
  else if word = "false" then some (.bool false)
  else (read word).map .num

def start (read : String → Option Number) (frames : List Frame) : Token → Option Reader
  | .text s => deliver (.str s) frames
  | .word word => (wordValue read word).bind (deliver · frames)
  | .mark c =>
      if c = '[' then some ⟨.array [] :: frames, .valueOrClose⟩
      else if c = '{' then some ⟨.object [] :: frames, .keyOrClose⟩
      else none

def close (c : Char) : List Frame → Option Reader
  | .array items :: rest => if c = ']' then deliver (.arr items) rest else none
  | .object fields :: rest => if c = '}' then deliver (.obj fields) rest else none
  | _ => none

def keyed (key : String) : List Frame → Option Reader
  | .object fields :: rest => some ⟨.member fields key :: rest, .colon⟩
  | _ => none

/-- After a comma: the next value of an array, the next key of an object. -/
def goOn (frames : List Frame) : Option Reader :=
  match frames with
  | .array _ :: _ => some ⟨frames, .value⟩
  | .object _ :: _ => some ⟨frames, .key⟩
  | _ => none

def advance (read : String → Option Number) (reader : Reader) (token : Token) : Option Reader :=
  match reader.expect with
  | .value => start read reader.frames token
  | .valueOrClose =>
      if token = .mark ']' then close ']' reader.frames else start read reader.frames token
  | .keyOrClose =>
      match token with
      | .text key => keyed key reader.frames
      | .mark c => close c reader.frames
      | .word _ => none
  | .key =>
      match token with
      | .text key => keyed key reader.frames
      | _ => none
  | .colon => if token = .mark ':' then some ⟨reader.frames, .value⟩ else none
  | .next =>
      match token with
      | .mark c => if c = ',' then goOn reader.frames else close c reader.frames
      | _ => none
  | .complete _ => none

/-- `JSON.parse(text)`, with what the language reads a numeral as. -/
def parse (read : String → Option Number) (text : String) : Except JsError Value :=
  match (tokens text).bind (fun tokens => tokens.foldlM (advance read) ⟨[], .value⟩) with
  | some ⟨_, .complete v⟩ => .ok v
  | _ => .error .syntaxError

end Admissorium.JavaScript.Json
