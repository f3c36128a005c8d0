import CameraRelay.Json.Number
import CameraRelay.Proofs.Number.Reach
import Mathlib.Data.List.Basic

/-!
# How JSON writes numbers

The spellings of a number, as a grammar. `number?` takes the longest of them that stands in front,
so it reads each spelling whose following text cannot go on with it, and nothing else:
`number?_of_numberText` and `numberText_of_number?`. Which digits make a number is said without the
reader's arithmetic by `InReach` (`inReach_iff`).
-/

namespace CameraRelay.Json

variable {s text rest : List Char} {ds : List Nat}

structure DigitsText (text : List Char) (ds : List Nat) : Prop where
  shown : text = ds.map Nat.digitChar
  decimal : ∀ d ∈ ds, d < 10

/-- The number with the given decimal digits. -/
def decimal (ds : List Nat) : Nat := ds.foldl (fun n d => n * 10 + d) 0

inductive SignText : List Char → Bool → Prop
  | plain : SignText [] false
  | minus : SignText ['-'] true

/-- One zero, or digits that do not begin with one. -/
inductive WholeText : List Char → List Nat → Prop
  | zero : WholeText ['0'] [0]
  | digits {text : List Char} {first : Nat} {others : List Nat}
    (spelled : DigitsText text (first :: others)) (notZero : first ≠ 0) :
    WholeText text (first :: others)

inductive FractionText : List Char → List Nat → Prop
  | none : FractionText [] []
  | point {text : List Char} {ds : List Nat} (spelled : DigitsText text ds) (nonempty : ds ≠ []) :
    FractionText ('.' :: text) ds

def exponentSigns : List (List Char × Bool) := [([], false), (['+'], false), (['-'], true)]

inductive ExponentText : List Char → Option Int → Prop
  | none : ExponentText [] none
  | power {mark : Char} {sign text : List Char} {isNegative : Bool} {ds : List Nat}
    (marked : mark = 'e' ∨ mark = 'E') (signed : (sign, isNegative) ∈ exponentSigns)
    (spelled : DigitsText text ds) (nonempty : ds ≠ []) :
    ExponentText (mark :: (sign ++ text))
      (some (if isNegative then -Int.ofNat (decimal ds) else Int.ofNat (decimal ds)))

/-- The digits of a number that are kept. -/
def significand (ds es : List Nat) : Nat := (absorb (absorb 0 ds).1 es).1

/-- The power of ten for what is kept: the whole digits that were not kept count up, the digits of
the fraction that were count down. -/
def scale (ds es : List Nat) (power : Option Int) : Int :=
  Int.ofNat (absorb 0 ds).2.length -
    Int.ofNat (es.length - (absorb (absorb 0 ds).1 es).2.length) + power.getD 0

/-- A number without fraction and exponent that fits 64 bits, a negative one with its sign. -/
structure IsInteger (isNegative : Bool) (ds es : List Nat) (power : Option Int) : Prop where
  fraction : es = []
  exponent : power = none
  fits : decimal ds ≤ maxSignificand
  signed : isNegative = true → 0 < decimal ds ∧ decimal ds ≤ 2 ^ 63

/-- Every integer that fits is within reach. The kept digits of another number are if they are all
zeros, or the power of ten for them is negative, or it is not beyond the last and their product with
it not too far from 0. -/
inductive InReach (isNegative : Bool) (ds es : List Nat) (power : Option Int) : Prop
  | integer (integer : IsInteger isNegative ds es power)
  | zero (zero : significand ds es = 0)
  | negative (below : scale ds es power < 0)
  | table {k : Nat} (same : scale ds es power = k) (last : k ≤ 308)
    (fits : ¬ Binary64.Overflows (.ofNat (significand ds es)) (.powerOfTen k))

/-- A sign, whole digits, a fraction and an exponent that are within reach, and the number that they
make. -/
inductive NumberText : List Char → JsonNumber → Prop
  | parts {sign whole fraction exponent : List Char} {isNegative : Bool} {ds es : List Nat}
    {power : Option Int} {number : JsonNumber} (signed : SignText sign isNegative)
    (wholeSpelled : WholeText whole ds) (fractionSpelled : FractionText fraction es)
    (exponentSpelled : ExponentText exponent power)
    (inReach : InReach isNegative ds es power)
    (value : numberOf? isNegative ds es power = some number) :
    NumberText (sign ++ (whole ++ (fraction ++ exponent))) number

/-- A text that goes on neither with a digit nor with one of some marks. -/
def Stops (marks : List Char) (rest : List Char) : Prop :=
  ∀ c ∈ rest.head?, digit? c = none ∧ c ∉ marks

/-- A text that cannot go on with a number. -/
abbrev Ends (rest : List Char) : Prop := Stops ['.', 'e', 'E'] rest

/-! ### Digits -/

theorem digit?_eq_some_iff {c : Char} {d : Nat} : digit? c = some d ↔ d < 10 ∧ c = d.digitChar := by
  constructor
  · intro read
    have known : Char.ofNat c.toNat = c := Char.ofNat_toNat c
    simp only [digit?, Bool.and_eq_true, decide_eq_true_eq] at read
    split at read
    · next range =>
      have low : 48 ≤ c.toNat := range.1
      have high : c.toNat ≤ 57 := range.2
      have eq : c.toNat - 48 = d := Option.some.inj read
      have small : d < 10 := by omega
      refine ⟨small, ?_⟩
      rw [← known, show c.toNat = 48 + d by omega]
      exact (by decide : ∀ d < 10, Char.ofNat (48 + d) = d.digitChar) d small
    · cases read
  · rintro ⟨small, rfl⟩
    exact (by decide : ∀ d < 10, digit? d.digitChar = some d) d small

theorem digitsText_of_digits (s : List Char) :
    ∃ ds text rest, digits s = (ds, rest) ∧ s = text ++ rest ∧ DigitsText text ds := by
  induction s with
  | nil => exact ⟨[], [], [], rfl, rfl, rfl, by simp⟩
  | cons c more ih =>
    rw [digits]
    cases read : digit? c with
    | none => exact ⟨[], [], c :: more, rfl, rfl, rfl, by simp⟩
    | some d =>
      obtain ⟨ds, text, rest, eq, split, spelled⟩ := ih
      obtain ⟨small, rfl⟩ := digit?_eq_some_iff.mp read
      refine ⟨d :: ds, d.digitChar :: text, rest, by simp only [eq], congrArg _ split, ?_, ?_⟩
      · rw [spelled.shown]
        rfl
      · exact List.forall_mem_cons.mpr ⟨small, spelled.decimal⟩

/-- The reader of digits takes all that are in front. -/
theorem DigitsText.read (spelled : DigitsText text ds) (stops : Stops [] rest) :
    digits (text ++ rest) = (ds, rest) := by
  obtain ⟨rfl, small⟩ := spelled
  induction ds with
  | nil =>
    cases rest with
    | nil => rfl
    | cons c rest => simp [digits, (stops c rfl).1]
  | cons d ds ih =>
    obtain ⟨first, others⟩ := List.forall_mem_cons.mp small
    have read : digit? d.digitChar = some d := digit?_eq_some_iff.mpr ⟨first, rfl⟩
    simp only [List.map_cons, List.cons_append, digits, read, ih others]

theorem Stops.mono {marks fewer : List Char} (stops : Stops marks rest) (sub : fewer ⊆ marks) :
    Stops fewer rest := fun c head =>
  ⟨(stops c head).1, fun mem => (stops c head).2 (sub mem)⟩

/-! ### The parts of a number -/

theorem wholeText_of_integerDigits? (read : integerDigits? s = some (ds, rest)) :
    ∃ text, s = text ++ rest ∧ WholeText text ds := by
  obtain ⟨found, text, after, eq, split, spelled⟩ := digitsText_of_digits s
  rw [integerDigits?, eq] at read
  match found, spelled, read with
  | [], _, read => cases read
  | 0 :: _ :: _, _, read => cases read
  | [0], spelled, read =>
    obtain ⟨rfl, rfl⟩ := Prod.mk.inj (Option.some.inj read)
    obtain rfl := spelled.shown
    exact ⟨['0'], split, .zero⟩
  | (first + 1) :: others, spelled, read =>
    obtain ⟨rfl, rfl⟩ := Prod.mk.inj (Option.some.inj read)
    exact ⟨text, split, .digits spelled (Nat.succ_ne_zero first)⟩

theorem WholeText.read (spelled : WholeText text ds) (stops : Stops [] rest) :
    integerDigits? (text ++ rest) = some (ds, rest) := by
  cases spelled with
  | zero =>
    have digit : DigitsText ['0'] [0] := ⟨rfl, by simp⟩
    simp only [integerDigits?, digit.read stops]
  | @digits _ first others spelled notZero =>
    simp only [integerDigits?, spelled.read stops]
    cases first with
    | zero => exact absurd rfl notZero
    | succ first => rfl

theorem fractionText_of_fractionDigits? (read : fractionDigits? s = some (ds, rest)) :
    ∃ text, s = text ++ rest ∧ FractionText text ds := by
  unfold fractionDigits? at read
  split at read
  · next more =>
    obtain ⟨found, text, after, eq, split, spelled⟩ := digitsText_of_digits more
    rw [eq] at read
    match found, spelled, read with
    | [], _, read => cases read
    | first :: others, spelled, read =>
      obtain ⟨rfl, rfl⟩ := Prod.mk.inj (Option.some.inj read)
      exact ⟨'.' :: text, congrArg _ split, .point spelled (List.cons_ne_nil _ _)⟩
  · obtain ⟨rfl, rfl⟩ := Prod.mk.inj (Option.some.inj read)
    exact ⟨[], rfl, .none⟩

theorem FractionText.read (spelled : FractionText text ds) (stops : Stops ['.'] rest) :
    fractionDigits? (text ++ rest) = some (ds, rest) := by
  cases spelled with
  | none =>
    rw [List.nil_append]
    unfold fractionDigits?
    split
    · exact absurd (stops '.' rfl).2 (by simp)
    · rfl
  | @point text ds spelled nonempty =>
    have read := spelled.read (stops.mono (List.nil_subset _))
    obtain ⟨first, others, rfl⟩ := List.exists_cons_of_ne_nil nonempty
    simp only [List.cons_append, fractionDigits?, read]

/-- The exponent behind its mark and sign. -/
def power? (isNegative : Bool) (s : List Char) : Option (Option Int × List Char) :=
  match digits s with
  | ([], _) => none
  | (ds, rest) =>
    some (some (if isNegative then -Int.ofNat (decimal ds) else Int.ofNat (decimal ds)), rest)

theorem exponent?_of_mark {mark : Char} (marked : mark = 'e' ∨ mark = 'E') (s : List Char) :
    exponent? (mark :: s) =
      match s with
      | '-' :: more => power? true more
      | '+' :: more => power? false more
      | s => power? false s := by
  rcases marked with rfl | rfl <;> rfl

theorem exponentText_of_power? {mark : Char} {sign : List Char} {isNegative : Bool}
    {power : Option Int} (marked : mark = 'e' ∨ mark = 'E')
    (signed : (sign, isNegative) ∈ exponentSigns)
    (read : power? isNegative s = some (power, rest)) :
    ∃ text, mark :: (sign ++ s) = text ++ rest ∧ ExponentText text power := by
  obtain ⟨found, text, after, eq, rfl, spelled⟩ := digitsText_of_digits s
  rw [power?, eq] at read
  match found, spelled, read with
  | [], _, read => cases read
  | first :: others, spelled, read =>
    obtain ⟨rfl, rfl⟩ := Prod.mk.inj (Option.some.inj read)
    refine ⟨mark :: (sign ++ text), by simp, ?_⟩
    exact .power marked signed spelled (List.cons_ne_nil _ _)

theorem exponentText_of_exponent? {power : Option Int} (read : exponent? s = some (power, rest)) :
    ∃ text, s = text ++ rest ∧ ExponentText text power := by
  cases s with
  | nil =>
    obtain ⟨rfl, rfl⟩ := Prod.mk.inj (Option.some.inj read)
    exact ⟨[], rfl, .none⟩
  | cons mark more =>
    by_cases marked : mark = 'e' ∨ mark = 'E'
    · rw [exponent?_of_mark marked] at read
      split at read
      · exact exponentText_of_power? marked (by decide : (['-'], true) ∈ exponentSigns) read
      · exact exponentText_of_power? marked (by decide : (['+'], false) ∈ exponentSigns) read
      · exact exponentText_of_power? marked (by decide : ([], false) ∈ exponentSigns) read
    · have unmarked : (mark == 'e' || mark == 'E') = false := by simpa using marked
      simp only [exponent?, unmarked] at read
      obtain ⟨rfl, rfl⟩ := Prod.mk.inj (Option.some.inj read)
      exact ⟨[], rfl, .none⟩

theorem ExponentText.read {power : Option Int} (spelled : ExponentText text power)
    (stops : Stops ['e', 'E'] rest) : exponent? (text ++ rest) = some (power, rest) := by
  cases spelled with
  | none =>
    cases rest with
    | nil => rfl
    | cons c rest =>
      have apart := (stops c rfl).2
      simp only [List.mem_cons, not_or] at apart
      simp [exponent?, apart]
  | @power mark sign text isNegative ds marked signed spelled nonempty =>
    obtain ⟨first, others, rfl⟩ := List.exists_cons_of_ne_nil nonempty
    have read : power? isNegative (text ++ rest) =
        some (some (if isNegative then -Int.ofNat (decimal (first :: others))
          else Int.ofNat (decimal (first :: others))), rest) := by
      simp only [power?, spelled.read (stops.mono (List.nil_subset _))]
    simp only [exponentSigns, List.mem_cons, Prod.mk.injEq, List.not_mem_nil, or_false] at signed
    rw [List.cons_append, List.append_assoc, exponent?_of_mark marked]
    rcases signed with ⟨rfl, rfl⟩ | ⟨rfl, rfl⟩ | ⟨rfl, rfl⟩
    · -- A digit is no sign.
      have digit := digit?_eq_some_iff.mpr ⟨spelled.decimal first List.mem_cons_self, rfl⟩
      obtain rfl := spelled.shown
      rw [List.map_cons, List.cons_append] at read
      rw [List.nil_append, List.map_cons, List.cons_append]
      split
      · next eq =>
        rw [(List.cons.inj eq).1] at digit
        cases digit
      · next eq =>
        rw [(List.cons.inj eq).1] at digit
        cases digit
      · exact read
    · exact read
    · exact read

/-! ### Numbers within reach -/

theorem le_foldl (n : Nat) (ds : List Nat) : n ≤ ds.foldl (fun n d => n * 10 + d) n := by
  induction ds generalizing n with
  | nil => exact Nat.le_refl n
  | cons d ds ih =>
    have step : n ≤ n * 10 + d := by omega
    exact Nat.le_trans step (ih (n * 10 + d))

theorem absorb_of_le {n : Nat} (fits : ds.foldl (fun n d => n * 10 + d) n ≤ maxSignificand) :
    absorb n ds = (ds.foldl (fun n d => n * 10 + d) n, []) := by
  induction ds generalizing n with
  | nil => rfl
  | cons d ds ih =>
    have next : n * 10 + d ≤ maxSignificand := Nat.le_trans (le_foldl _ ds) fits
    rw [absorb, if_pos next]
    exact ih fits

theorem absorb_le {n : Nat} (small : n ≤ maxSignificand) (ds : List Nat) :
    (absorb n ds).1 ≤ maxSignificand := by
  induction ds generalizing n with
  | nil => exact small
  | cons d ds ih =>
    rw [absorb]
    split
    · next fits => exact ih fits
    · exact small

/-- All digits are kept of a natural below 2^64 only. -/
theorem absorb_all {n : Nat} (small : n ≤ maxSignificand) :
    (absorb n ds).2 = [] ↔ ds.foldl (fun n d => n * 10 + d) n ≤ maxSignificand := by
  constructor
  · intro all
    induction ds generalizing n with
    | nil => exact small
    | cons d ds ih =>
      rw [absorb] at all
      split at all
      · next fits => exact ih fits all
      · cases all
  · intro fits
    rw [absorb_of_le fits]

theorem lt_limit_of_le {n : Nat} (small : n ≤ maxSignificand) : n < Binary64.limit := by
  have high : n < 2 ^ 53 * (1 * 2 ^ 11) := Nat.lt_of_le_of_lt small (by decide)
  have below := Binary64.lt_of_scaled (by decide : 11 ≤ 970) high
  rwa [Nat.mul_one] at below

variable {isNegative : Bool} {es : List Nat} {power : Option Int}

theorem numberOf?_of_integer (integer : IsInteger isNegative ds es power) :
    numberOf? isNegative ds es power ≠ none := by
  obtain ⟨rfl, rfl, fits, signed⟩ := integer
  simp only [numberOf?, absorb_of_le fits]
  cases isNegative with
  | false => simp
  | true =>
    obtain ⟨some, low⟩ := signed rfl
    have low : decimal ds ≤ Nat.pow 2 63 := low
    simp only [decimal] at some low
    simp [some, low]

theorem numberOf?_of_not_integer (fraction : ¬ IsInteger isNegative ds es power) :
    numberOf? isNegative ds es power =
      (Binary64.ofDecimal? (significand ds es) (scale ds es power)).map (.floating isNegative) := by
  have fits (kept : (absorb 0 ds).2 = []) : decimal ds ≤ maxSignificand :=
    (absorb_all (Nat.zero_le _)).mp kept
  simp only [numberOf?]
  split
  · next natural =>
    simp only [Bool.and_eq_true, List.isEmpty_iff, Option.isNone_iff_eq_none,
      Bool.not_eq_true'] at natural
    obtain ⟨⟨⟨none, plain⟩, kept⟩, positive⟩ := natural
    exact absurd ⟨none, plain, fits kept, by simp [positive]⟩ fraction
  · split
    · next negative =>
      simp only [Bool.and_eq_true, List.isEmpty_iff, Option.isNone_iff_eq_none,
        decide_eq_true_eq] at negative
      obtain ⟨⟨⟨⟨none, plain⟩, kept⟩, some⟩, low⟩ := negative
      have value : (absorb 0 ds).1 = decimal ds := by
        rw [absorb_of_le (fits kept)]
        rfl
      rw [value] at some low
      exact absurd ⟨none, plain, fits kept, fun _ => ⟨some, low⟩⟩ fraction
    · rfl

theorem numberOf?_eq_none_iff :
    numberOf? isNegative ds es power = none ↔
      ¬ IsInteger isNegative ds es power ∧ significand ds es ≠ 0 ∧
        ∃ k : Nat, scale ds es power = k ∧
          (308 < k ∨
            Binary64.Overflows (.ofNat (significand ds es)) (.powerOfTen k)) := by
  have small : significand ds es ≤ maxSignificand := absorb_le (absorb_le (Nat.zero_le _) ds) es
  rw [← Binary64.ofDecimal?_eq_none_iff (lt_limit_of_le small)]
  by_cases integer : IsInteger isNegative ds es power
  · simp [numberOf?_of_integer integer, integer]
  · simp [numberOf?_of_not_integer integer, integer]

theorem inReach_iff :
    InReach isNegative ds es power ↔ numberOf? isNegative ds es power ≠ none := by
  rw [Ne, numberOf?_eq_none_iff]
  constructor
  · rintro (integer | zero | negative | ⟨same, last, fits⟩) ⟨apart, notZero, k, eq, far⟩
    · exact apart integer
    · exact notZero zero
    · omega
    · obtain rfl : _ = k := Int.ofNat.inj (same.symm.trans eq)
      rcases far with far | far
      · omega
      · exact fits far
  · intro within
    by_contra out
    refine within ⟨fun integer => out (.integer integer), fun zero => out (.zero zero), ?_⟩
    cases same : scale ds es power with
    | negSucc k => exact absurd (.negative (same ▸ Int.negSucc_lt_zero k)) out
    | ofNat k =>
      refine ⟨k, rfl, ?_⟩
      by_contra near
      obtain ⟨last, fits⟩ := not_or.mp near
      exact out (.table same (Nat.not_lt.mp last) fits)

/-! ### Numbers -/

theorem stops_of_fractionText {marks : List Char} (spelled : FractionText text ds)
    (apart : '.' ∉ marks) (stops : Stops marks rest) : Stops marks (text ++ rest) := by
  cases spelled with
  | none => exact stops
  | point =>
    intro c head
    obtain rfl := Option.some.inj head
    exact ⟨rfl, apart⟩

theorem stops_of_exponentText {marks : List Char} {power : Option Int}
    (spelled : ExponentText text power) (apart : 'e' ∉ marks ∧ 'E' ∉ marks)
    (stops : Stops marks rest) : Stops marks (text ++ rest) := by
  cases spelled with
  | none => exact stops
  | power marked =>
    intro c head
    obtain rfl := Option.some.inj head
    rcases marked with rfl | rfl
    · exact ⟨rfl, apart.1⟩
    · exact ⟨rfl, apart.2⟩

/-- What follows the sign of a number. -/
def magnitude? (isNegative : Bool) (s : List Char) : Option (JsonNumber × List Char) := do
  let (whole, s) ← integerDigits? s
  let (fraction, s) ← fractionDigits? s
  let (exponent, s) ← exponent? s
  let n ← numberOf? isNegative whole fraction exponent
  return (n, s)

theorem number?_minus (s : List Char) : number? ('-' :: s) = magnitude? true s := rfl

theorem number?_of_head (plain : s.head? ≠ some '-') : number? s = magnitude? false s := by
  rw [number?]
  · rfl
  · rintro more rfl
    exact plain rfl

theorem numberText_of_magnitude? {sign : List Char} {isNegative : Bool} {number : JsonNumber}
    (signed : SignText sign isNegative) (read : magnitude? isNegative s = some (number, rest)) :
    ∃ text, sign ++ s = text ++ rest ∧ NumberText text number := by
  simp only [magnitude?, Option.bind_eq_bind, Option.bind_eq_some_iff, Prod.exists] at read
  obtain ⟨ds, s₁, whole, es, s₂, fraction, power, s₃, exponent, n, value, eq⟩ := read
  obtain ⟨rfl, rfl⟩ := Prod.mk.inj (Option.some.inj eq)
  obtain ⟨wholeText, rfl, wholeSpelled⟩ := wholeText_of_integerDigits? whole
  obtain ⟨fractionText, rfl, fractionSpelled⟩ := fractionText_of_fractionDigits? fraction
  obtain ⟨exponentText, rfl, exponentSpelled⟩ := exponentText_of_exponent? exponent
  refine ⟨sign ++ (wholeText ++ (fractionText ++ exponentText)), by simp, ?_⟩
  have inReach := inReach_iff.mpr (Option.ne_none_iff_exists'.mpr ⟨n, value⟩)
  exact .parts signed wholeSpelled fractionSpelled exponentSpelled inReach value

theorem numberText_of_number? {number : JsonNumber} (read : number? s = some (number, rest)) :
    ∃ text, s = text ++ rest ∧ NumberText text number := by
  by_cases minus : s.head? = some '-'
  · obtain ⟨more, rfl⟩ := List.head?_eq_some_iff.mp minus
    exact numberText_of_magnitude? .minus read
  · rw [number?_of_head minus] at read
    exact numberText_of_magnitude? .plain read

theorem head?_whole (spelled : WholeText text ds) : (text ++ rest).head? ≠ some '-' := by
  cases spelled with
  | zero => simp
  | @digits _ first others spelled =>
    obtain rfl := spelled.shown
    intro head
    have digit := digit?_eq_some_iff.mpr ⟨spelled.decimal first List.mem_cons_self, rfl⟩
    rw [Option.some.inj head] at digit
    cases digit

theorem number?_of_numberText {number : JsonNumber} (spelled : NumberText text number)
    (ends : Ends rest) : number? (text ++ rest) = some (number, rest) := by
  obtain ⟨signed, whole, fraction, exponent, _, value⟩ := spelled
  have afterFraction : Stops ['.'] _ :=
    stops_of_exponentText exponent (by decide) (ends.mono (by decide))
  have afterWhole : Stops [] _ :=
    stops_of_fractionText fraction (by decide) (afterFraction.mono (List.nil_subset _))
  have exponentRead := exponent.read (ends.mono (by decide))
  have fractionRead := fraction.read afterFraction
  have wholeRead := whole.read afterWhole
  simp only [List.append_assoc]
  cases signed with
  | minus =>
    rw [List.cons_append, List.nil_append, number?_minus]
    simp [magnitude?, wholeRead, fractionRead, exponentRead, value]
  | plain =>
    rw [List.nil_append, number?_of_head (head?_whole whole)]
    simp [magnitude?, wholeRead, fractionRead, exponentRead, value]

/-! ### What is written -/

theorem decimal_concat (ds : List Nat) (d : Nat) : decimal (ds ++ [d]) = decimal ds * 10 + d := by
  simp [decimal]

theorem digitsText_toDigits {n : Nat} (pos : 0 < n) :
    ∃ first others, first ≠ 0 ∧ decimal (first :: others) = n ∧
      DigitsText (Nat.toDigits 10 n) (first :: others) := by
  induction n using Nat.strongRecOn with
  | ind n ih =>
    rw [Nat.toDigits_eq_if (by decide)]
    split
    · next small =>
      exact ⟨n, [], by omega, by simp [decimal], by simp, by simpa using small⟩
    · next large =>
      obtain ⟨first, others, notZero, value, spelled⟩ := ih (n / 10) (by omega) (by omega)
      refine ⟨first, others ++ [n % 10], notZero, ?_, ?_, ?_⟩
      · rw [← List.cons_append, decimal_concat, value]
        omega
      · rw [spelled.shown, ← List.cons_append, List.map_append]
        rfl
      · rw [← List.cons_append]
        refine List.forall_mem_append.mpr ⟨spelled.decimal, ?_⟩
        simpa using Nat.mod_lt n (by decide)

theorem wholeText_toDigits (n : Nat) :
    ∃ ds, decimal ds = n ∧ WholeText (Nat.toDigits 10 n) ds := by
  rcases Nat.eq_zero_or_pos n with rfl | pos
  · exact ⟨[0], rfl, .zero⟩
  · obtain ⟨first, others, notZero, value, spelled⟩ := digitsText_toDigits pos
    exact ⟨first :: others, value, .digits spelled notZero⟩

/-- A natural below 2^64 is read as it is written. -/
theorem numberText_toDigits {n : Nat} (fits : n < 2 ^ 64) :
    NumberText (Nat.toDigits 10 n) (.natural n) := by
  obtain ⟨ds, value, whole⟩ := wholeText_toDigits n
  have small : decimal ds ≤ maxSignificand := by
    rw [value]
    exact Nat.le_sub_one_of_lt fits
  have integer : IsInteger false ds [] none := ⟨rfl, rfl, small, by simp⟩
  have number : numberOf? false ds [] none = some (.natural n) := by
    simp only [numberOf?, absorb_of_le small]
    rw [← value]
    rfl
  have spelled := NumberText.parts .plain whole .none .none (.integer integer) number
  rwa [List.nil_append, List.append_nil, List.append_nil] at spelled

end CameraRelay.Json
