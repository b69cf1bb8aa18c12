import Stagehand.Json.Reader

/-!
# The grammar of JSON texts
What a text spells, said without its readers. Every relation holds between the symbols from where
a part begins, what the part stands for, and the symbols that are left after it. Nothing is said
here about what is wrong with a text that spells nothing.
-/

namespace Stagehand.Json

variable {α : Type}

/-! ### Blanks -/

/-- The symbols that may stand between any two parts of a text. -/
def IsBlank (c : Sym) : Prop :=
  c = .char ' ' ∨ c = .char '\n' ∨ c = .char '\t' ∨ c = .char '\r'

instance (c : Sym) : Decidable (IsBlank c) := inferInstanceAs (Decidable (_ ∨ _ ∨ _ ∨ _))

/-- Any number of blanks. -/
inductive Blanks : List Sym → List Sym → Prop
  | none (s : List Sym) : Blanks s s
  | more {c : Sym} {s r : List Sym} (hc : IsBlank c) (h : Blanks s r) : Blanks (c :: s) r

/-- A character, after any number of blanks. -/
def Mark (c : Char) (s r : List Sym) : Prop := Blanks s (.char c :: r)

/-! ### Strings -/

/-- Four hexadecimal digits and the code unit that they spell. -/
inductive HexUnit : List Sym → Nat → List Sym → Prop
  | digits {a b c d : Char} {i j k l : Nat} {r : List Sym} (ha : digitIn? 16 a = some i)
      (hb : digitIn? 16 b = some j) (hc : digitIn? 16 c = some k) (hd : digitIn? 16 d = some l) :
      HexUnit (.char a :: .char b :: .char c :: .char d :: r) (((i * 16 + j) * 16 + k) * 16 + l) r

/-- An escape after its backslash. Two code units that are the halves of a pair stand for one
character, and no half may stand alone. -/
inductive Escape : List Sym → Char → List Sym → Prop
  | short {c d : Char} {r : List Sym} (h : shortEscape? c = some d) : Escape (.char c :: r) d r
  | unit {n : Nat} {s r : List Sym} (h : HexUnit s n r) (hl : isLowSurrogate n = false)
      (hh : isHighSurrogate n = false) : Escape (.char 'u' :: s) (Char.ofNat n) r
  | pair {n m : Nat} {s t r : List Sym} (hn : HexUnit s n (.char '\\' :: .char 'u' :: t))
      (hh : isHighSurrogate n = true) (hm : HexUnit t m r) (hl : isLowSurrogate m = true) :
      Escape (.char 'u' :: s) (Char.ofNat ((n - 0xd800) * 1024 + (m - 0xdc00) + 0x10000)) r

/-- The characters that stand for themselves in a string. -/
def IsPlain (c : Char) : Prop := c ≠ '"' ∧ c ≠ '\\' ∧ ¬ c < ' '

/-- The characters of a string, after its opening quote and up to its closing one. -/
inductive Letters : List Sym → List Char → List Sym → Prop
  | close (r : List Sym) : Letters (.char '"' :: r) [] r
  | plain {c : Char} {cs : List Char} {s r : List Sym} (hc : IsPlain c) (h : Letters s cs r) :
      Letters (.char c :: s) (c :: cs) r
  | escape {c : Char} {cs : List Char} {s t r : List Sym} (hc : Escape s c t)
      (h : Letters t cs r) : Letters (.char '\\' :: s) (c :: cs) r

/-- A string that nobody wants, after its opening quote. Its escapes may be halves of pairs, and
it may hold stray bytes. -/
inductive SkippedLetters : List Sym → List Sym → Prop
  | close (r : List Sym) : SkippedLetters (.char '"' :: r) r
  | plain {c : Char} {s r : List Sym} (hc : IsPlain c) (h : SkippedLetters s r) :
      SkippedLetters (.char c :: s) r
  | stray {bytes : List UInt8} {s r : List Sym} (h : SkippedLetters s r) :
      SkippedLetters (.stray bytes :: s) r
  | short {c d : Char} {s r : List Sym} (hc : shortEscape? c = some d) (h : SkippedLetters s r) :
      SkippedLetters (.char '\\' :: .char c :: s) r
  | unit {n : Nat} {s t r : List Sym} (hn : HexUnit s n t) (h : SkippedLetters t r) :
      SkippedLetters (.char '\\' :: .char 'u' :: s) r

/-! ### Numbers -/

/-- What is left does not begin with one of some characters. -/
def Stops (p : Char → Prop) (r : List Sym) : Prop := ∀ c t, r = .char c :: t → ¬ p c

/-- All the digits that stand here. -/
def Digits (s : List Sym) (ds : List Char) (r : List Sym) : Prop :=
  s = Utf8.ofChars ds ++ r ∧ (∀ c ∈ ds, isDigit c = true) ∧ Stops (isDigit · = true) r

/-- A fraction, which has a digit if it is there at all. -/
inductive Fraction : List Sym → List Char → List Sym → Prop
  | absent {r : List Sym} (h : Stops (· = '.') r) : Fraction r [] r
  | digits {ds : List Char} {s r : List Sym} (h : Digits s ds r) (hne : ds ≠ []) :
      Fraction (.char '.' :: s) ds r

/-- The sign of an exponent, and whether it is a minus sign. -/
inductive Sign : List Sym → Bool → List Sym → Prop
  | none (r : List Sym) : Sign r false r
  | plus (r : List Sym) : Sign (.char '+' :: r) false r
  | minus (r : List Sym) : Sign (.char '-' :: r) true r

/-- An exponent, which has a digit if it is there at all. -/
inductive Exponent : List Sym → Option (Bool × List Char) → List Sym → Prop
  | absent {r : List Sym} (h : Stops (fun c => c = 'e' ∨ c = 'E') r) : Exponent r none r
  | digits {e : Char} {down : Bool} {ds : List Char} {s t r : List Sym} (he : e = 'e' ∨ e = 'E')
      (hs : Sign s down t) (h : Digits t ds r) (hne : ds ≠ []) :
      Exponent (.char e :: s) (some (down, ds)) r

/-- A number as it is written. A fraction that is absent has no digits. -/
structure Literal where
  negative : Bool
  whole : List Char
  fraction : List Char := []
  exponent : Option (Bool × List Char) := none

namespace Literal

/-- A number without its sign. Only the number zero begins with the digit zero. -/
def Unsigned (l : Literal) (s r : List Sym) : Prop :=
  ∃ a b, Digits s l.whole a ∧ (l.whole = ['0'] ∨ ∃ d ds, l.whole = d :: ds ∧ d ≠ '0') ∧
    Fraction a l.fraction b ∧ Exponent b l.exponent r

/-- A number, with a minus sign where it is negative. -/
def Written (l : Literal) (s r : List Sym) : Prop :=
  if l.negative then ∃ t, s = .char '-' :: t ∧ l.Unsigned t r else l.Unsigned s r

/-- The number of some digits and an exponent of ten, to which a written exponent is added. -/
def scaled? (negative : Bool) (digits : Nat) (exponent : Int) :
    Option (Bool × List Char) → Option Number
  | none => (realOf? negative digits exponent).map .real
  | some (down, ds) =>
    let e := Numeral.value ds
    if e ≤ maxExponent then
      (realOf? negative digits (if down then exponent - e else exponent + e)).map .real
    else if digits ≠ 0 ∧ !down then none
    else some (.real (Binary64.zero negative))

/-- What a number comes to, unless it is too large. -/
def value? (l : Literal) : Option Number :=
  let (n, left) := keepWhole 0 l.whole
  if l.fraction = [] ∧ l.exponent = none ∧ left = 0 then some (wholeNumber l.negative n)
  else
    let (m, kept) := keepFraction n l.fraction
    scaled? l.negative m (left - kept) l.exponent

end Literal

/-! ### Containers -/

/-- What comes before an element of a container: a comma, unless it is the first one. -/
def Separator : (first : Bool) → List Sym → List Sym → Prop
  | true, s, r => s = r
  | false, s, r => Mark ',' s r

/-- The items of an array, after its opening bracket and up to its closing one. -/
inductive Items (Item : List Sym → α → List Sym → Prop) :
    (first : Bool) → List Sym → List α → List Sym → Prop
  | close {first : Bool} {s r : List Sym} (h : Mark ']' s r) : Items Item first s [] r
  | item {first : Bool} {a : α} {as : List α} {s t u r : List Sym} (hs : Separator first s t)
      (ha : Item t a u) (h : Items Item false u as r) : Items Item first s (a :: as) r

/-- The name of a member, with its quotes and its colon. -/
def Name (s : List Sym) (name : String) (r : List Sym) : Prop :=
  ∃ t u, Mark '"' s t ∧ Letters t name.toList u ∧ Mark ':' u r

/-- The members of an object in their order, after its opening brace and up to its closing one. -/
inductive Entries (Value : List Sym → α → List Sym → Prop) :
    (first : Bool) → List Sym → List (String × α) → List Sym → Prop
  | close {first : Bool} {s r : List Sym} (h : Mark '}' s r) : Entries Value first s [] r
  | entry {first : Bool} {name : String} {a : α} {ms : List (String × α)}
      {s t u v r : List Sym} (hs : Separator first s t) (hn : Name t name u) (ha : Value u a v)
      (h : Entries Value false v ms r) : Entries Value first s ((name, a) :: ms) r

/-! ### Values -/

/-- A string with its quotes. -/
def Text (s : List Sym) (text : String) (r : List Sym) : Prop :=
  ∃ t, Mark '"' s t ∧ Letters t text.toList r

/-- What follows an opening brace. It is the members of an object, of two with one name the later
counts; unless the first name is the one of embedded texts, which has a text with a value and
nothing after it, and the whole stands for that value. -/
inductive Braces (Value : List Sym → Json → List Sym → Prop) (Embedded : String → Json → Prop) :
    List Sym → Json → List Sym → Prop
  | members {es : List (String × Json)} {s r : List Sym} (h : Entries Value true s es r)
      (hn : (Members.names es).head? ≠ some embeddedName) :
      Braces Value Embedded s (.object (Members.ofList es)) r
  | embedded {text : String} {v : Json} {s t u r : List Sym} (hn : Name s embeddedName t)
      (ht : Text t text u) (hv : Embedded text v) (hm : Mark '}' u r) :
      Braces Value Embedded s v r

/-- A value of any shape, given what may follow an opening bracket and an opening brace. -/
inductive Shape (Array : List Sym → List Json → List Sym → Prop)
    (Object : List Sym → Json → List Sym → Prop) : List Sym → Json → List Sym → Prop
  | null {s r : List Sym} (h : Blanks s (Utf8.ofChars ['n', 'u', 'l', 'l'] ++ r)) :
      Shape Array Object s .null r
  | yes {s r : List Sym} (h : Blanks s (Utf8.ofChars ['t', 'r', 'u', 'e'] ++ r)) :
      Shape Array Object s (.bool true) r
  | no {s r : List Sym} (h : Blanks s (Utf8.ofChars ['f', 'a', 'l', 's', 'e'] ++ r)) :
      Shape Array Object s (.bool false) r
  | number {l : Literal} {n : Number} {s t r : List Sym} (h : Blanks s t) (hl : l.Written t r)
      (hn : l.value? = some n) : Shape Array Object s (.number n) r
  | string {text : String} {s t r : List Sym} (h : Mark '"' s t) (ht : Letters t text.toList r) :
      Shape Array Object s (.string text) r
  | array {vs : List Json} {s t r : List Sym} (h : Mark '[' s t) (hv : Array t vs r) :
      Shape Array Object s (.array vs) r
  | object {v : Json} {s t r : List Sym} (h : Mark '{' s t) (hv : Object t v r) :
      Shape Array Object s v r

/-- A value that holds containers nested at most `depth` deep, given the values of the texts that
are embedded in it. -/
def SpellsWith (Embedded : String → Json → Prop) :
    (depth : Nat) → List Sym → Json → List Sym → Prop
  | 0 => Shape (fun _ _ _ => False) (fun _ _ _ => False)
  | depth + 1 =>
    Shape (Items (SpellsWith Embedded depth) true) (Braces (SpellsWith Embedded depth) Embedded)

/-- A text with nothing but a value and blanks, in which texts are embedded less than `texts`
deep. -/
def HoldsWithin : (texts : Nat) → String → Json → Prop
  | 0, _, _ => False
  | texts + 1, text, v =>
    ∃ r, SpellsWith (HoldsWithin texts) maxDepth (Utf8.ofString text) v r ∧ Blanks r []

/-- A text with nothing but a value and blanks. -/
def Holds (text : String) (v : Json) : Prop := ∃ texts, HoldsWithin texts text v

/-- A value that holds containers nested at most `depth` deep. An embedded text has a depth of its
own. -/
def Spells (depth : Nat) : List Sym → Json → List Sym → Prop := SpellsWith Holds depth

/-! ### What nobody wants -/

/-- A value without elements that nobody wants. -/
inductive SkippedScalar : List Sym → List Sym → Prop
  | word {w : List Char} {s r : List Sym}
      (hw : w ∈ [['n', 'u', 'l', 'l'], ['t', 'r', 'u', 'e'], ['f', 'a', 'l', 's', 'e']])
      (h : Blanks s (Utf8.ofChars w ++ r)) : SkippedScalar s r
  | number {l : Literal} {s t r : List Sym} (h : Blanks s t) (hl : l.Written t r) :
      SkippedScalar s r
  | string {s t r : List Sym} (h : Mark '"' s t) (ht : SkippedLetters t r) : SkippedScalar s r

/-- The character that opens a container. -/
def Frame.opener : Frame → Char
  | array => '['
  | object => '\x7b'

/-- What leads in an element of a container that nobody wants. -/
def Entered : Frame → List Sym → List Sym → Prop
  | .array, s, r => s = r
  | .object, s, r => ∃ t u, Mark '"' s t ∧ SkippedLetters t u ∧ Mark ':' u r

/-- What is passed over: a value, or what is left of a container. -/
inductive Skipping
  | value
  | rest (f : Frame) (first : Bool)

/-- A value that nobody wants, nested without limit, or what is left of a container of such
values. -/
inductive Skipped : Skipping → List Sym → List Sym → Prop
  | scalar {s r : List Sym} (h : SkippedScalar s r) : Skipped .value s r
  | container {f : Frame} {s t r : List Sym} (h : Mark f.opener s t)
      (hr : Skipped (.rest f true) t r) : Skipped .value s r
  | close {f : Frame} {first : Bool} {s r : List Sym} (h : Mark f.closer s r) :
      Skipped (.rest f first) s r
  | element {f : Frame} {first : Bool} {s t u v r : List Sym} (hs : Separator first s t)
      (he : Entered f t u) (hv : Skipped .value u v) (hr : Skipped (.rest f false) v r) :
      Skipped (.rest f first) s r

end Stagehand.Json
