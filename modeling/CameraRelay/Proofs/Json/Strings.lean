import CameraRelay.Json.Text
import Mathlib.Tactic.IntervalCases

/-!
# How JSON writes strings

The spellings of a string, as a grammar: a character stands for itself, or behind a backslash for
another, or is spelled by one or two units of four hexadecimal digits. `unquote?` reads each of them
and nothing else (`unquote?_eq_some_iff`), and what `quote` writes is one (`bodyText_escape`).
-/

namespace CameraRelay.Json

variable {s text rest : List Char} {c : Char} {value : Nat}

def lowerHex : List Char := "0123456789abcdef".toList

def upperHex : List Char := "0123456789ABCDEF".toList

/-- A hexadecimal digit in either case. -/
def IsHexDigit (c : Char) (value : Nat) : Prop :=
  lowerHex[value]? = some c ∨ upperHex[value]? = some c

instance (c : Char) (value : Nat) : Decidable (IsHexDigit c value) :=
  inferInstanceAs (Decidable (_ ∨ _))

inductive UnitText : List Char → Nat → Prop
  | digits {a b c d : Char} {i j k l : Nat} (first : IsHexDigit a i) (second : IsHexDigit b j)
    (third : IsHexDigit c k) (fourth : IsHexDigit d l) :
    UnitText [a, b, c, d] (((i * 16 + j) * 16 + k) * 16 + l)

def IsSurrogate (unit : Nat) : Prop := 0xd800 ≤ unit ∧ unit ≤ 0xdfff

/-- The characters that a backslash makes of others. -/
def shortEscapes : List (Char × Char) :=
  [('"', '"'), ('\\', '\\'), ('/', '/'), ('b', Char.ofNat 8), ('f', Char.ofNat 12), ('n', '\n'),
   ('r', '\r'), ('t', '\t')]

/-- What may follow `\u`. Above the first plane a character takes a high surrogate and a low one. -/
inductive UnicodeText : List Char → Char → Prop
  | unit {text : List Char} {value : Nat} (spelled : UnitText text value)
    (plain : ¬ IsSurrogate value) : UnicodeText text (Char.ofNat value)
  | pair {first second : List Char} {high low : Nat} (firstSpelled : UnitText first high)
    (isHigh : 0xd800 ≤ high ∧ high < 0xdc00) (secondSpelled : UnitText second low)
    (isLow : 0xdc00 ≤ low ∧ low ≤ 0xdfff) :
    UnicodeText (first ++ '\\' :: 'u' :: second)
      (Char.ofNat (0x10000 + (high - 0xd800) * 0x400 + (low - 0xdc00)))

/-- What may follow a backslash. -/
inductive EscapeText : List Char → Char → Prop
  | short {mark c : Char} (listed : (mark, c) ∈ shortEscapes) : EscapeText [mark] c
  | unicode {text : List Char} {c : Char} (spelled : UnicodeText text c) :
    EscapeText ('u' :: text) c

inductive CharacterText : List Char → Char → Prop
  | plain {c : Char} (shown : 32 ≤ c.toNat) (notQuote : c ≠ '"') (notBackslash : c ≠ '\\') :
    CharacterText [c] c
  | escaped {text : List Char} {c : Char} (spelled : EscapeText text c) :
    CharacterText ('\\' :: text) c

/-- What may stand between the quotes of a string. -/
inductive BodyText : List Char → List Char → Prop
  | nil : BodyText [] []
  | cons {text rest : List Char} {c : Char} {s : List Char} (first : CharacterText text c)
    (others : BodyText rest s) : BodyText (text ++ rest) (c :: s)

inductive StringText : List Char → List Char → Prop
  | quoted {body s : List Char} (inside : BodyText body s) :
    StringText ('"' :: body ++ ['"']) s

/-! ### Escapes -/

theorem isHexDigit_below :
    ∀ n < 103, ∀ value ∈ hexValue? (Char.ofNat n), IsHexDigit (Char.ofNat n) value := by
  decide

theorem hexValue?_eq_some_iff : hexValue? c = some value ↔ IsHexDigit c value := by
  constructor
  · intro read
    have below : c.toNat < 103 := by
      by_contra far
      simp only [hexValue?, Bool.and_eq_true, decide_eq_true_eq] at read
      rw [if_neg (by omega), if_neg (by omega), if_neg (by omega)] at read
      cases read
    have checked := isHexDigit_below c.toNat below value
    rw [Char.ofNat_toNat] at checked
    exact checked read
  · intro digit
    have small : value < 16 := by
      rcases digit with lower | upper
      · exact (List.getElem?_eq_some_iff.mp lower).1
      · exact (List.getElem?_eq_some_iff.mp upper).1
    rcases digit with lower | upper
    · interval_cases value <;> obtain rfl := Option.some.inj lower <;> rfl
    · interval_cases value <;> obtain rfl := Option.some.inj upper <;> rfl

theorem unit16?_eq_some_iff :
    unit16? s = some (value, rest) ↔ ∃ text, s = text ++ rest ∧ UnitText text value := by
  constructor
  · intro read
    match s, read with
    | a :: b :: c :: d :: after, read =>
      simp only [unit16?, Option.bind_eq_bind, Option.bind_eq_some_iff, hexValue?_eq_some_iff,
        Option.some.injEq, Prod.mk.injEq] at read
      obtain ⟨i, first, j, second, k, third, l, fourth, rfl, rfl⟩ := read
      refine ⟨[a, b, c, d], rfl, ?_⟩
      have spelled := UnitText.digits first second third fourth
      rwa [show ((i * 16 + j) * 16 + k) * 16 + l = (i * 16 + j) * 256 + (k * 16 + l) by omega]
        at spelled
  · rintro ⟨_, rfl, ⟨first, second, third, fourth⟩⟩
    rw [← hexValue?_eq_some_iff] at first second third fourth
    simp only [List.cons_append, List.nil_append, unit16?, first, second, third, fourth,
      Option.bind_eq_bind, Option.bind_some, Option.some.injEq, Prod.mk.injEq, and_true]
    omega

theorem UnitText.read (spelled : UnitText text value) (rest : List Char) :
    unit16? (text ++ rest) = some (value, rest) :=
  unit16?_eq_some_iff.mpr ⟨text, rfl, spelled⟩

theorem unicodeEscape?_eq_some_iff :
    unicodeEscape? s = some (c, rest) ↔ ∃ text, s = text ++ rest ∧ UnicodeText text c := by
  constructor
  · intro read
    simp only [unicodeEscape?, Option.bind_eq_bind, Option.bind_eq_some_iff, Prod.exists,
      Bool.or_eq_true, decide_eq_true_eq] at read
    obtain ⟨high, after, first, read⟩ := read
    obtain ⟨text, rfl, spelled⟩ := unit16?_eq_some_iff.mp first
    split at read
    · next plain =>
      obtain ⟨rfl, rfl⟩ := Prod.mk.inj (Option.some.inj read)
      exact ⟨text, rfl, .unit spelled (by rw [IsSurrogate]; omega)⟩
    · split at read
      · cases read
      · split at read
        · simp only [Option.bind_eq_some_iff, Prod.exists, Bool.and_eq_true,
            decide_eq_true_eq] at read
          obtain ⟨low, after, second, read⟩ := read
          obtain ⟨lowText, rfl, lowSpelled⟩ := unit16?_eq_some_iff.mp second
          split at read
          · next isLow =>
            obtain ⟨rfl, rfl⟩ := Prod.mk.inj (Option.some.inj read)
            refine ⟨text ++ '\\' :: 'u' :: lowText, by simp, ?_⟩
            exact .pair spelled (by omega) lowSpelled isLow
          · cases read
        · cases read
  · rintro ⟨text, rfl, spelled⟩
    cases spelled with
    | @unit _ value spelled plain =>
      rw [IsSurrogate] at plain
      simp only [unicodeEscape?, spelled.read, Option.bind_eq_bind, Option.bind_some,
        Bool.or_eq_true, decide_eq_true_eq]
      rw [if_pos (by omega)]
    | @pair first second high low spelled isHigh lowSpelled isLow =>
      rw [List.append_assoc, List.cons_append, List.cons_append]
      simp only [unicodeEscape?, spelled.read, lowSpelled.read, Option.bind_eq_bind,
        Option.bind_some, Bool.or_eq_true, Bool.and_eq_true, decide_eq_true_eq]
      rw [if_neg (by omega), if_neg (by omega), if_pos isLow]

theorem escaped?_eq_some_iff :
    escaped? s = some (c, rest) ↔ ∃ text, s = text ++ rest ∧ EscapeText text c := by
  constructor
  · intro read
    have known {mark : Char} (listed : (mark, c) ∈ shortEscapes) :
        ∃ text, mark :: rest = text ++ rest ∧ EscapeText text c := ⟨[mark], rfl, .short listed⟩
    unfold escaped? at read
    split at read
    case h_9 =>
      obtain ⟨text, rfl, spelled⟩ := unicodeEscape?_eq_some_iff.mp read
      exact ⟨'u' :: text, rfl, .unicode spelled⟩
    case h_10 => cases read
    all_goals
      obtain ⟨rfl, rfl⟩ := Prod.mk.inj (Option.some.inj read)
      exact known (by decide)
  · rintro ⟨text, rfl, spelled⟩
    cases spelled with
    | short listed =>
      simp only [shortEscapes, List.mem_cons, Prod.mk.injEq, List.not_mem_nil, or_false] at listed
      rcases listed with ⟨rfl, rfl⟩ | ⟨rfl, rfl⟩ | ⟨rfl, rfl⟩ | ⟨rfl, rfl⟩ | ⟨rfl, rfl⟩ |
        ⟨rfl, rfl⟩ | ⟨rfl, rfl⟩ | ⟨rfl, rfl⟩ <;> rfl
    | unicode spelled => exact unicodeEscape?_eq_some_iff.mpr ⟨_, rfl, spelled⟩

/-! ### Strings -/

theorem bodyText_of_characters? {fuel : Nat} {inside : List Char}
    (read : characters? fuel s = some (inside, rest)) :
    ∃ body, s = body ++ '"' :: rest ∧ BodyText body inside := by
  induction fuel generalizing s inside with
  | zero => cases s <;> cases read
  | succ fuel ih =>
    cases s with
    | nil => cases read
    | cons c after =>
      simp only [characters?, Option.bind_eq_bind] at read
      split at read
      · next isQuote =>
        obtain ⟨rfl, rfl⟩ := Prod.mk.inj (Option.some.inj read)
        exact ⟨[], by rw [isQuote]; rfl, .nil⟩
      · next notQuote =>
        split at read
        · next isBackslash =>
          simp only [Option.bind_eq_some_iff, Prod.exists] at read
          obtain ⟨made, left, escape, others, last, following, eq⟩ := read
          obtain ⟨rfl, rfl⟩ := Prod.mk.inj (Option.some.inj eq)
          obtain ⟨text, rfl, spelled⟩ := escaped?_eq_some_iff.mp escape
          obtain ⟨body, rfl, more⟩ := ih following
          exact ⟨('\\' :: text) ++ body, by simp [isBackslash], .cons (.escaped spelled) more⟩
        · next notBackslash =>
          split at read
          · cases read
          · next shown =>
            simp only [Option.bind_eq_some_iff, Prod.exists] at read
            obtain ⟨others, last, following, eq⟩ := read
            obtain ⟨rfl, rfl⟩ := Prod.mk.inj (Option.some.inj eq)
            obtain ⟨body, rfl, more⟩ := ih following
            exact ⟨[c] ++ body, rfl, .cons (.plain (by omega) notQuote notBackslash) more⟩

theorem length_pos_of_characterText (spelled : CharacterText text c) : 0 < text.length := by
  cases spelled <;> simp

theorem characters?_of_bodyText {fuel : Nat} {body inside : List Char}
    (spelled : BodyText body inside) (enough : body.length < fuel) :
    characters? fuel (body ++ '"' :: rest) = some (inside, rest) := by
  induction spelled generalizing fuel with
  | nil =>
    obtain ⟨fuel, rfl⟩ := Nat.exists_eq_succ_of_ne_zero (by omega : fuel ≠ 0)
    rfl
  | @cons text body c inside first others ih =>
    have pos := length_pos_of_characterText first
    rw [List.length_append] at enough
    obtain ⟨fuel, rfl⟩ := Nat.exists_eq_succ_of_ne_zero (by omega : fuel ≠ 0)
    have following := ih (by omega : _ < fuel)
    cases first with
    | plain shown notQuote notBackslash =>
      simp only [List.cons_append, List.nil_append, characters?, if_neg notQuote,
        if_neg notBackslash, if_neg (Nat.not_lt.mpr shown), following, Option.bind_eq_bind,
        Option.bind_some]
    | @escaped text c spelled =>
      have escape := escaped?_eq_some_iff.mpr
        ⟨text, (rfl : _ = text ++ (body ++ '"' :: rest)), spelled⟩
      rw [List.append_assoc]
      simp only [List.cons_append, characters?, escape, following, Option.bind_eq_bind,
        Option.bind_some]
      rfl

/-- The reader of strings takes exactly what is spelled up to a closing quote. -/
theorem unquote?_eq_some_iff {inside : List Char} :
    unquote? s = some (inside, rest) ↔ ∃ body, s = body ++ '"' :: rest ∧ BodyText body inside := by
  constructor
  · exact bodyText_of_characters?
  · rintro ⟨body, rfl, spelled⟩
    exact characters?_of_bodyText spelled (by simp)

theorem BodyText.read {body inside : List Char} (spelled : BodyText body inside)
    (rest : List Char) : unquote? (body ++ '"' :: rest) = some (inside, rest) :=
  unquote?_eq_some_iff.mpr ⟨body, rfl, spelled⟩

/-! ### What is written -/

theorem isHexDigit_hexDigit : ∀ value < 16, IsHexDigit (hexDigit value) value := by
  decide

theorem unitText_control (small : value < 32) :
    UnitText ['0', '0', hexDigit (value / 16), hexDigit (value % 16)] value := by
  have zero : IsHexDigit '0' 0 := by decide
  have spelled := UnitText.digits zero zero (isHexDigit_hexDigit (value / 16) (by omega))
    (isHexDigit_hexDigit (value % 16) (by omega))
  rwa [show ((0 * 16 + 0) * 16 + value / 16) * 16 + value % 16 = value by omega] at spelled

theorem characterText_escape (c : Char) : CharacterText (escape c) c := by
  have named {n : Nat} (eq : c.toNat = n) : c = Char.ofNat n := by rw [← eq, Char.ofNat_toNat]
  unfold escape
  split_ifs with isQuote isBackslash isBack isTab isLine isForm isReturn isControl
  · exact .escaped (.short (by rw [isQuote]; decide))
  · exact .escaped (.short (by rw [isBackslash]; decide))
  · exact .escaped (.short (by rw [named isBack]; decide))
  · exact .escaped (.short (by rw [named isTab]; decide))
  · exact .escaped (.short (by rw [named isLine]; decide))
  · exact .escaped (.short (by rw [named isForm]; decide))
  · exact .escaped (.short (by rw [named isReturn]; decide))
  · have spelled : UnicodeText _ (Char.ofNat c.toNat) :=
      .unit (unitText_control isControl) (by rw [IsSurrogate]; omega)
    rw [Char.ofNat_toNat] at spelled
    exact .escaped (.unicode spelled)
  · exact .plain (by omega) isQuote isBackslash

theorem bodyText_escape (s : List Char) : BodyText (s.flatMap escape) s := by
  induction s with
  | nil => exact .nil
  | cons c rest ih => exact .cons (characterText_escape c) ih

theorem stringText_quote (s : List Char) : StringText (quote s) s := .quoted (bodyText_escape s)

end CameraRelay.Json
