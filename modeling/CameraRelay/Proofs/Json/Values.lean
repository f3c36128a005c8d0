import CameraRelay.Json.Reader
import CameraRelay.Proofs.Json.Numbers
import CameraRelay.Proofs.Json.Strings
import Mathlib.Data.List.DropRight
import Mathlib.Data.List.TakeWhile

/-!
# The texts of JSON values

The grammar of JSON, apart from how a reader goes about it: white space may stand around every
value and every key, arrays and objects list what they hold with commas, and no limit is set to how
deep they are nested. `read?` accepts exactly the texts of values that are not nested more than 127
deep, and gives the value that is spelled. Main statement: `read?_eq_some_iff`.
-/

namespace CameraRelay

namespace Json

/-- White space. -/
def Blank (text : List Char) : Prop := ∀ c ∈ text, c ∈ [' ', '\n', '\t', '\r']

/-- Something with white space around it. -/
inductive Padded {α : Type} (item : List Char → α → Prop) : List Char → α → Prop
  | between {before text after : List Char} {a : α} (leading : Blank before)
    (spelled : item text a) (trailing : Blank after) : Padded item (before ++ (text ++ after)) a

/-- One thing or more, with commas between them. -/
inductive SeriesText {α : Type} (item : List Char → α → Prop) : List Char → List α → Prop
  | last {text : List Char} {a : α} (spelled : item text a) : SeriesText item text [a]
  | more {text rest : List Char} {a : α} {others : List α} (spelled : item text a)
    (following : SeriesText item rest others) : SeriesText item (text ++ ',' :: rest) (a :: others)

/-- A key and a value, with a colon between them. -/
inductive MemberText (value : List Char → Json → Prop) : List Char → List Char × Json → Prop
  | member {keyText text key : List Char} {v : Json} (keySpelled : Padded StringText keyText key)
    (spelled : Padded value text v) : MemberText value (keyText ++ ':' :: text) (key, v)

inductive ValueText : List Char → Json → Prop
  | null : ValueText "null".toList .null
  | yes : ValueText "true".toList (.bool true)
  | no : ValueText "false".toList (.bool false)
  | number {text : List Char} {n : JsonNumber} (spelled : NumberText text n) :
    ValueText text (.number n)
  | string {text s : List Char} (spelled : StringText text s) : ValueText text (.string s)
  | emptyArray {text : List Char} (blank : Blank text) :
    ValueText ('[' :: (text ++ [']'])) (.array [])
  | array {text : List Char} {items : List Json}
    (spelled : SeriesText (Padded ValueText) text items) :
    ValueText ('[' :: (text ++ [']'])) (.array items)
  | emptyObject {text : List Char} (blank : Blank text) :
    ValueText ('{' :: (text ++ ['}'])) (.object [])
  | object {text : List Char} {members : List (List Char × Json)}
    (spelled : SeriesText (MemberText ValueText) text members) :
    ValueText ('{' :: (text ++ ['}'])) (.object members)

/-- Arrays and objects are nested at most so deep. -/
inductive Within : Nat → Json → Prop
  | null {depth : Nat} : Within depth .null
  | bool {depth : Nat} {b : Bool} : Within depth (.bool b)
  | number {depth : Nat} {n : JsonNumber} : Within depth (.number n)
  | string {depth : Nat} {s : List Char} : Within depth (.string s)
  | array {depth : Nat} {items : List Json} (inner : ∀ item ∈ items, Within depth item) :
    Within (depth + 1) (.array items)
  | object {depth : Nat} {members : List (List Char × Json)}
    (inner : ∀ member ∈ members, Within depth member.2) : Within (depth + 1) (.object members)

/-- A text of one value that is not nested too deep. -/
def Valid (text : List Char) (v : Json) : Prop := Padded ValueText text v ∧ Within maxDepth v

variable {s text rest : List Char} {c : Char} {α β : Type}

/-! ### White space -/

theorem isSpace_iff : isSpace c = true ↔ c ∈ [' ', '\n', '\t', '\r'] := by
  simp [isSpace, or_assoc]

theorem Blank.nil : Blank [] := by simp [Blank]

theorem skipSpace_append {before : List Char} (blank : Blank before) (s : List Char) :
    skipSpace (before ++ s) = skipSpace s :=
  List.dropWhile_append_of_pos fun c mem => isSpace_iff.mpr (blank c mem)

theorem skipSpace_cons (solid : isSpace c = false) (s : List Char) :
    skipSpace (c :: s) = c :: s := by
  simp [skipSpace, solid]

theorem blank_skipSpace (s : List Char) : ∃ before, s = before ++ skipSpace s ∧ Blank before :=
  ⟨s.takeWhile isSpace, List.takeWhile_append_dropWhile.symm, fun _ mem =>
    isSpace_iff.mp (List.mem_takeWhile_imp mem)⟩

theorem skipSpace_skipSpace (s : List Char) : skipSpace (skipSpace s) = skipSpace s :=
  List.dropWhile_idempotent _ s

theorem ends_of_blank {after : List Char} (blank : Blank after) (ends : Ends rest) :
    Ends (after ++ rest) := by
  cases after with
  | nil => exact ends
  | cons c more =>
    intro head eq
    obtain rfl := Option.some.inj eq
    have space := blank c List.mem_cons_self
    simp only [List.mem_cons, List.not_mem_nil, or_false] at space
    rcases space with rfl | rfl | rfl | rfl <;> decide

/-! ### Series -/

/-- A reader takes what is spelled in front, and leaves the white space behind it. -/
structure Reads (read : List Char → Option (α × List Char)) (item : List Char → α → Prop) :
    Prop where
  sound : ∀ s a rest, read s = some (a, rest) →
    ∃ text, s = text ++ rest ∧ ∀ after, Blank after → item (text ++ after) a
  complete : ∀ text a, item text a →
    ∃ core after, text = core ++ after ∧ Blank after ∧
      ∀ rest, Ends rest → read (core ++ rest) = some (a, rest)

/-- The reader of items and the reader of members are one. -/
def series? (read : List Char → Option (α × List Char)) (close : Char) :
    Nat → List Char → Option (List α × List Char)
  | 0, _ => none
  | fuel + 1, s => do
    let (first, s) ← read s
    match skipSpace s with
    | [] => none
    | c :: rest =>
      if c = close then some ([first], rest)
      else if c = ',' then do
        let (others, rest) ← series? read close fuel rest
        some (first :: others, rest)
      else none

theorem items?_eq_series? (item : ValueReader) (fuel : Nat) (s : List Char) :
    items? item fuel s = series? (fun s => item (skipSpace s)) ']' fuel s := by
  induction fuel generalizing s with
  | zero => rfl
  | succ fuel ih =>
    simp only [items?, series?, Option.bind_eq_bind]
    refine Option.bind_congr fun ⟨first, after⟩ _ => ?_
    rcases skipSpace after with _ | ⟨c, more⟩
    · rfl
    · by_cases isClose : c = ']'
      · rw [isClose]
        rfl
      · by_cases isComma : c = ','
        · rw [isComma]
          simp [ih]
        · simp [isClose, isComma]

theorem members?_eq_series? (item : ValueReader) (fuel : Nat) (s : List Char) :
    members? item fuel s = series? (member? item) '}' fuel s := by
  induction fuel generalizing s with
  | zero => rfl
  | succ fuel ih =>
    simp only [members?, series?, Option.bind_eq_bind]
    refine Option.bind_congr fun ⟨first, after⟩ _ => ?_
    rcases skipSpace after with _ | ⟨c, more⟩
    · rfl
    · by_cases isClose : c = '}'
      · rw [isClose]
        rfl
      · by_cases isComma : c = ','
        · rw [isComma]
          simp [ih]
        · simp [isClose, isComma]

section

variable {read : List Char → Option (α × List Char)} {item : List Char → α → Prop} {close : Char}
  {fuel : Nat} {found : List α}

theorem seriesText_of_series? (reads : Reads read item)
    (done : series? read close fuel s = some (found, rest)) :
    ∃ text, s = text ++ close :: rest ∧ SeriesText item text found := by
  induction fuel generalizing s found with
  | zero => cases done
  | succ fuel ih =>
    simp only [series?, Option.bind_eq_bind, Option.bind_eq_some_iff, Prod.exists] at done
    obtain ⟨first, after, front, done⟩ := done
    obtain ⟨text, rfl, spelled⟩ := reads.sound s first after front
    obtain ⟨blank, split, isBlank⟩ := blank_skipSpace after
    generalize skipSpace after = left at done split
    obtain rfl := split
    rcases left with _ | ⟨c, more⟩
    · cases done
    · simp only at done
      split at done
      · next isClose =>
        obtain ⟨rfl, rfl⟩ := Prod.mk.inj (Option.some.inj done)
        exact ⟨text ++ blank, by simp [isClose], .last (spelled blank isBlank)⟩
      · split at done
        · next isComma =>
          simp only [Option.bind_eq_some_iff, Prod.exists] at done
          obtain ⟨others, left, following, eq⟩ := done
          obtain ⟨rfl, rfl⟩ := Prod.mk.inj (Option.some.inj eq)
          obtain ⟨more, rfl, rest⟩ := ih following
          refine ⟨text ++ blank ++ ',' :: more, by simp [isComma], ?_⟩
          exact .more (spelled blank isBlank) rest
        · cases done

theorem series?_of_seriesText (reads : Reads read item) (closes : close = ']' ∨ close = '}')
    (spelled : SeriesText item text found) (enough : found.length ≤ fuel) :
    series? read close fuel (text ++ close :: rest) = some (found, rest) := by
  have solid : isSpace close = false := by rcases closes with rfl | rfl <;> rfl
  have notComma : close ≠ ',' := by rcases closes with rfl | rfl <;> decide
  have ends : Ends (close :: rest) := by
    intro c head
    obtain rfl := Option.some.inj head
    rcases closes with rfl | rfl <;> decide
  induction spelled generalizing fuel with
  | last spelled =>
    obtain ⟨fuel, rfl⟩ := Nat.exists_eq_succ_of_ne_zero (Nat.ne_of_gt enough)
    obtain ⟨core, after, rfl, blank, front⟩ := reads.complete _ _ spelled
    simp only [series?, List.append_assoc, front _ (ends_of_blank blank ends),
      Option.bind_eq_bind, Option.bind_some, skipSpace_append blank, skipSpace_cons solid, if_true]
  | @more text more first others spelled following ih =>
    obtain ⟨fuel, rfl⟩ := Nat.exists_eq_succ_of_ne_zero (Nat.ne_of_gt (Nat.zero_lt_of_lt enough))
    obtain ⟨core, after, rfl, blank, front⟩ := reads.complete _ _ spelled
    have comma : Ends (',' :: (more ++ close :: rest)) := by
      intro c head
      obtain rfl := Option.some.inj head
      decide
    have inner := ih (Nat.le_of_succ_le_succ enough)
    simp only [series?, List.append_assoc, List.cons_append, front _ (ends_of_blank blank comma),
      Option.bind_eq_bind, Option.bind_some, skipSpace_append blank,
      skipSpace_cons (by decide : isSpace ',' = false), if_neg notComma.symm, if_true, inner]

/-- Each thing but the last is followed by a comma, so the text is long enough to be the fuel. -/
theorem SeriesText.length_le (spelled : SeriesText item text found) :
    found.length ≤ text.countP (fun c => !isSpace c) + 1 := by
  induction spelled with
  | last => simp
  | more _ _ ih =>
    rw [List.countP_append, List.countP_cons_of_pos (by decide), List.length_cons]
    omega

theorem countP_skipSpace (s : List Char) :
    (skipSpace s).countP (fun c => !isSpace c) = s.countP (fun c => !isSpace c) := by
  obtain ⟨before, split, blank⟩ := blank_skipSpace s
  have none : before.countP (fun c => !isSpace c) = 0 :=
    List.countP_eq_zero.mpr fun c mem => by simp [isSpace_iff.mpr (blank c mem)]
  conv_rhs => rw [split, List.countP_append, none, Nat.zero_add]

/-- What an array or an object holds. -/
inductive ListText {α : Type} (item : List Char → α → Prop) : List Char → List α → Prop
  | empty {text : List Char} (blank : Blank text) : ListText item text []
  | series {text : List Char} {found : List α} (spelled : SeriesText item text found) :
    ListText item text found

/-- What `array?` and `object?` have in common. -/
def listed? (read : List Char → Option (α × List Char)) (close : Char) (s : List Char) :
    Option (List α × List Char) :=
  match skipSpace s with
  | [] => none
  | c :: rest =>
    if c = close then some ([], rest) else series? read close (rest.length + 1) (c :: rest)

theorem series?_skipSpace (skips : ∀ s, read (skipSpace s) = read s) (s : List Char) :
    series? read close fuel (skipSpace s) = series? read close fuel s := by
  cases fuel with
  | zero => rfl
  | succ fuel => rw [series?, skips, series?]

theorem listText_of_listed? (reads : Reads read item) (skips : ∀ s, read (skipSpace s) = read s)
    (done : listed? read close s = some (found, rest)) :
    ∃ text, s = text ++ close :: rest ∧ ListText item text found := by
  obtain ⟨before, split, blank⟩ := blank_skipSpace s
  unfold listed? at done
  split at done
  · cases done
  · next c more front =>
    split at done
    · next isClose =>
      obtain ⟨rfl, rfl⟩ := Prod.mk.inj (Option.some.inj done)
      rw [front, isClose] at split
      exact ⟨before, split, .empty blank⟩
    · rw [← front, series?_skipSpace skips] at done
      obtain ⟨text, eq, spelled⟩ := seriesText_of_series? reads done
      exact ⟨text, eq, .series spelled⟩

theorem listed?_of_listText (reads : Reads read item) (closes : close = ']' ∨ close = '}')
    (skips : ∀ s, read (skipSpace s) = read s) (refuses : ∀ s, read (close :: s) = none)
    (spelled : ListText item text found) :
    listed? read close (text ++ close :: rest) = some (found, rest) := by
  have solid : isSpace close = false := by rcases closes with rfl | rfl <;> rfl
  cases spelled with
  | empty blank => simp only [listed?, skipSpace_append blank, skipSpace_cons solid, if_true]
  | series spelled =>
    have enough : found.length ≤ (skipSpace (text ++ close :: rest)).length := by
      have solids := List.countP_le_length (p := fun c => !isSpace c)
        (l := skipSpace (text ++ close :: rest))
      rw [countP_skipSpace, List.countP_append, List.countP_cons_of_pos (by simp [solid])] at solids
      have := spelled.length_le
      omega
    have done : _ = some (_, rest) := series?_of_seriesText reads closes spelled enough
    rw [← series?_skipSpace skips] at done
    unfold listed?
    generalize skipSpace (text ++ close :: rest) = front at done
    rcases front with _ | ⟨c, more⟩
    · cases done
    · simp only
      split
      · next isClose =>
        rw [isClose, List.length_cons, series?, refuses] at done
        cases done
      · exact done

end

theorem array?_eq_listed? (item : ValueReader) (s : List Char) :
    array? item s =
      (listed? (fun s => item (skipSpace s)) ']' s).map
        fun (items, rest) => (.array items, rest) := by
  unfold array? listed?
  rcases skipSpace s with _ | ⟨c, more⟩
  · rfl
  · by_cases isClose : c = ']'
    · rw [isClose]
      rfl
    · simp [isClose, items?_eq_series?]

theorem object?_eq_listed? (item : ValueReader) (s : List Char) :
    object? item s =
      (listed? (member? item) '}' s).map fun (members, rest) => (.object members, rest) := by
  unfold object? listed?
  rcases skipSpace s with _ | ⟨c, more⟩
  · rfl
  · by_cases isClose : c = '}'
    · rw [isClose]
      rfl
    · simp [isClose, members?_eq_series?]

/-! ### Items and members -/

structure ReadsValue (read : ValueReader) (value : List Char → Json → Prop) : Prop where
  sound : ∀ s v rest, read s = some (v, rest) → ∃ text, s = text ++ rest ∧ value text v
  complete : ∀ text v rest, value text v → Ends rest → read (text ++ rest) = some (v, rest)
  /-- A value does not begin with white space. -/
  solid : ∀ c s, isSpace c = true → read (c :: s) = none

section

variable {read : ValueReader} {value : List Char → Json → Prop}

theorem ReadsValue.skipSpace_eq (reads : ReadsValue read value) {v : Json}
    (front : read s = some (v, rest)) : skipSpace s = s := by
  cases s with
  | nil => rfl
  | cons c more =>
    cases space : isSpace c with
    | false => exact skipSpace_cons space more
    | true =>
      rw [reads.solid c more space] at front
      cases front

theorem ReadsValue.padded (reads : ReadsValue read value) :
    Reads (fun s => read (skipSpace s)) (Padded value) where
  sound s v rest front := by
    obtain ⟨before, split, blank⟩ := blank_skipSpace s
    obtain ⟨text, eq, spelled⟩ := reads.sound _ v rest front
    refine ⟨before ++ text, by rw [List.append_assoc, ← eq, ← split], fun after trailing => ?_⟩
    rw [List.append_assoc]
    exact .between blank spelled trailing
  complete text v spelled := by
    obtain @⟨before, text, after, _, leading, spelled, trailing⟩ := spelled
    refine ⟨before ++ text, after, (List.append_assoc ..).symm, trailing, fun rest ends => ?_⟩
    have front := reads.complete text v rest spelled ends
    rw [List.append_assoc, skipSpace_append leading, reads.skipSpace_eq front, front]

theorem padded_stringText {key keyText : List Char} (spelled : Padded StringText keyText key) :
    ∃ before body after, keyText = before ++ '"' :: (body ++ '"' :: after) ∧ Blank before ∧
      BodyText body key ∧ Blank after := by
  obtain ⟨leading, ⟨inside⟩, trailing⟩ := spelled
  exact ⟨_, _, _, by simp, leading, inside, trailing⟩

theorem ReadsValue.member (reads : ReadsValue read value) :
    Reads (member? read) (MemberText value) where
  sound s member rest front := by
    obtain ⟨before, split, leading⟩ := blank_skipSpace s
    unfold member? at front
    split at front
    · next inside opened =>
      simp only [Option.bind_eq_bind, Option.bind_eq_some_iff, Prod.exists] at front
      obtain ⟨key, left, keyRead, front⟩ := front
      obtain ⟨body, rfl, spelled⟩ := unquote?_eq_some_iff.mp keyRead
      obtain ⟨between, split', trailing⟩ := blank_skipSpace left
      split at front
      · next behind colon =>
        simp only [Option.bind_eq_some_iff, Prod.exists] at front
        obtain ⟨v, last, valueRead, eq⟩ := front
        obtain ⟨rfl, rfl⟩ := Prod.mk.inj (Option.some.inj eq)
        obtain ⟨text, eq, closed⟩ := reads.padded.sound behind v last valueRead
        have keySpelled : Padded StringText (before ++ ('"' :: body ++ ['"'] ++ between)) key :=
          .between leading (.quoted spelled) trailing
        refine ⟨before ++ ('"' :: body ++ ['"'] ++ between) ++ ':' :: text, ?_,
          fun after blank => ?_⟩
        · rw [split, opened, split', colon, eq]
          simp
        · rw [List.append_assoc, List.cons_append]
          exact .member keySpelled (closed after blank)
      · cases front
    · cases front
  complete text member spelled := by
    obtain ⟨keySpelled, spelled⟩ := spelled
    obtain ⟨before, body, between, rfl, leading, inside, trailing⟩ := padded_stringText keySpelled
    obtain ⟨core, after, rfl, blank, front⟩ := reads.padded.complete _ _ spelled
    refine ⟨before ++ '"' :: (body ++ '"' :: between) ++ ':' :: core, after, by simp, blank,
      fun rest ends => ?_⟩
    have quote : skipSpace (before ++ '"' :: (body ++ '"' :: (between ++ ':' :: (core ++ rest)))) =
        '"' :: (body ++ '"' :: (between ++ ':' :: (core ++ rest))) := by
      rw [skipSpace_append leading, skipSpace_cons (by decide)]
    have colon : skipSpace (between ++ ':' :: (core ++ rest)) = ':' :: (core ++ rest) := by
      rw [skipSpace_append trailing, skipSpace_cons (by decide)]
    simp only [List.append_assoc, List.cons_append, member?, quote, inside.read, colon,
      front rest ends, Option.bind_eq_bind, Option.bind_some]

theorem member?_skipSpace (s : List Char) : member? read (skipSpace s) = member? read s := by
  simp only [member?, skipSpace_skipSpace]

theorem member?_close (s : List Char) : member? read ('\x7d' :: s) = none := rfl

end

/-! ### Values -/

theorem number?_eq_none (notMinus : c ≠ '-') (notDigit : digit? c = none) (s : List Char) :
    number? (c :: s) = none := by
  rw [number?_of_head (by simpa using notMinus)]
  simp [magnitude?, integerDigits?, digits, notDigit]

theorem scalar?_of_head (plain : c ∉ ['n', 't', 'f', '"']) (s : List Char) :
    scalar? (c :: s) = (number? (c :: s)).map fun (n, rest) => (.number n, rest) := by
  unfold scalar?
  split <;> simp_all

theorem value?_of_head (depth : Nat) (plain : c ∉ ['[', '\x7b']) (s : List Char) :
    value? depth (c :: s) = scalar? (c :: s) := by
  cases depth <;> unfold value? <;> split <;> simp_all

theorem value?_eq_none (depth : Nat) (mem : c ∈ [' ', '\n', '\t', '\r', ']']) (s : List Char) :
    value? depth (c :: s) = none := by
  simp only [List.mem_cons, List.not_mem_nil, or_false] at mem
  rcases mem with rfl | rfl | rfl | rfl | rfl <;>
    rw [value?_of_head _ (by decide), scalar?_of_head (by decide),
      number?_eq_none (by decide) (by decide)] <;> rfl

/-- A value that is nested at most so deep. -/
def Fits (depth : Nat) (text : List Char) (v : Json) : Prop := ValueText text v ∧ Within depth v

theorem fits_of_scalar? {depth : Nat} {v : Json} (front : scalar? s = some (v, rest)) :
    ∃ text, s = text ++ rest ∧ Fits depth text v := by
  unfold scalar? at front
  split at front
  · obtain ⟨rfl, rfl⟩ := Prod.mk.inj (Option.some.inj front)
    exact ⟨"null".toList, rfl, .null, .null⟩
  · obtain ⟨rfl, rfl⟩ := Prod.mk.inj (Option.some.inj front)
    exact ⟨"true".toList, rfl, .yes, .bool⟩
  · obtain ⟨rfl, rfl⟩ := Prod.mk.inj (Option.some.inj front)
    exact ⟨"false".toList, rfl, .no, .bool⟩
  · simp only [Option.map_eq_some_iff, Prod.exists, Prod.mk.injEq] at front
    obtain ⟨inside, left, read, rfl, rfl⟩ := front
    obtain ⟨body, rfl, spelled⟩ := unquote?_eq_some_iff.mp read
    exact ⟨'"' :: body ++ ['"'], by simp, .string (.quoted spelled), .string⟩
  · simp only [Option.map_eq_some_iff, Prod.exists, Prod.mk.injEq] at front
    obtain ⟨n, left, read, rfl, rfl⟩ := front
    obtain ⟨text, rfl, spelled⟩ := numberText_of_number? read
    exact ⟨text, rfl, .number spelled, .number⟩

theorem value?_of_numberText (depth : Nat) {n : JsonNumber} (spelled : NumberText text n)
    (ends : Ends rest) : value? depth (text ++ rest) = some (.number n, rest) := by
  have front := number?_of_numberText spelled ends
  generalize text ++ rest = s at front
  cases s with
  | nil => cases front
  | cons c more =>
    have starts : c ∉ ['n', 't', 'f', '"', '[', '\x7b'] := by
      intro mem
      simp only [List.mem_cons, List.not_mem_nil, or_false] at mem
      rcases mem with rfl | rfl | rfl | rfl | rfl | rfl <;>
        rw [number?_eq_none (by decide) (by decide)] at front <;> cases front
    rw [value?_of_head _ (fun mem => starts (by simp at mem ⊢; tauto)), scalar?_of_head, front]
    · rfl
    · exact fun mem => starts (by simp at mem ⊢; tauto)

theorem value?_of_stringText (depth : Nat) {inside : List Char} (spelled : StringText text inside) :
    value? depth (text ++ rest) = some (.string inside, rest) := by
  obtain ⟨spelled⟩ := spelled
  rw [List.append_assoc, List.cons_append, value?_of_head _ (by decide)]
  simp only [scalar?, List.cons_append, List.nil_append, spelled.read, Option.map_some]

theorem SeriesText.mono {item other : List Char → α → Prop} {found : List α}
    (spelled : SeriesText item text found)
    (sub : ∀ text a, a ∈ found → item text a → other text a) : SeriesText other text found := by
  induction spelled with
  | last spelled => exact .last (sub _ _ List.mem_cons_self spelled)
  | more spelled _ ih =>
    refine .more (sub _ _ List.mem_cons_self spelled) (ih fun text a mem => ?_)
    exact sub text a (List.mem_cons_of_mem _ mem)

theorem SeriesText.forall {item : List Char → α → Prop} {holds : α → Prop} {found : List α}
    (spelled : SeriesText item text found) (each : ∀ text a, item text a → holds a) :
    ∀ a ∈ found, holds a := by
  induction spelled with
  | last spelled => exact List.forall_mem_singleton.mpr (each _ _ spelled)
  | more spelled _ ih => exact List.forall_mem_cons.mpr ⟨each _ _ spelled, ih⟩

theorem Padded.mono {item other : List Char → α → Prop} {a : α} (spelled : Padded item text a)
    (sub : ∀ text, item text a → other text a) : Padded other text a := by
  obtain ⟨leading, spelled, trailing⟩ := spelled
  exact .between leading (sub _ spelled) trailing

theorem MemberText.mono {value other : List Char → Json → Prop} {member : List Char × Json}
    (spelled : MemberText value text member)
    (sub : ∀ text, value text member.2 → other text member.2) : MemberText other text member := by
  obtain ⟨keySpelled, spelled⟩ := spelled
  exact .member keySpelled (spelled.mono sub)

variable {depth : Nat} {items : List Json} {members : List (List Char × Json)}

theorem fits_array (spelled : ListText (Padded (Fits depth)) text items) :
    Fits (depth + 1) ('[' :: (text ++ [']'])) (.array items) := by
  cases spelled with
  | empty blank => exact ⟨.emptyArray blank, .array (by simp)⟩
  | series spelled =>
    refine ⟨.array (spelled.mono fun _ _ _ item => item.mono fun _ fits => fits.1), .array ?_⟩
    exact spelled.forall fun _ _ ⟨_, fits, _⟩ => fits.2

theorem fits_object (spelled : ListText (MemberText (Fits depth)) text members) :
    Fits (depth + 1) ('\x7b' :: (text ++ ['\x7d'])) (.object members) := by
  cases spelled with
  | empty blank => exact ⟨.emptyObject blank, .object (by simp)⟩
  | series spelled =>
    refine ⟨.object (spelled.mono fun _ _ _ member => member.mono fun _ fits => fits.1), .object ?_⟩
    exact spelled.forall fun _ _ ⟨_, ⟨_, fits, _⟩⟩ => fits.2

theorem value?_of_listed_items (reads : ReadsValue (value? depth) (Fits depth))
    (spelled : ListText (Padded (Fits depth)) text items) :
    value? (depth + 1) ('[' :: (text ++ [']']) ++ rest) = some (.array items, rest) := by
  have done : _ = some (_, rest) := listed?_of_listText reads.padded (.inl rfl)
    (fun s => by rw [skipSpace_skipSpace])
    (fun s => by rw [skipSpace_cons (by decide), value?_eq_none _ (by decide)]) spelled
  rw [List.cons_append, List.append_assoc]
  exact (array?_eq_listed? ..).trans (by rw [List.singleton_append, done]; rfl)

theorem value?_of_listed_members (reads : ReadsValue (value? depth) (Fits depth))
    (spelled : ListText (MemberText (Fits depth)) text members) :
    value? (depth + 1) ('\x7b' :: (text ++ ['\x7d']) ++ rest) = some (.object members, rest) := by
  have done : _ = some (_, rest) :=
    listed?_of_listText reads.member (.inr rfl) member?_skipSpace member?_close spelled
  rw [List.cons_append, List.append_assoc]
  exact (object?_eq_listed? ..).trans (by rw [List.singleton_append, done]; rfl)

theorem fits_of_array? (reads : ReadsValue (value? depth) (Fits depth)) {v : Json}
    (front : array? (value? depth) s = some (v, rest)) :
    ∃ text, '[' :: s = text ++ rest ∧ Fits (depth + 1) text v := by
  rw [array?_eq_listed?, Option.map_eq_some_iff] at front
  obtain ⟨⟨items, left⟩, done, eq⟩ := front
  obtain ⟨rfl, rfl⟩ := Prod.mk.inj eq
  obtain ⟨text, rfl, spelled⟩ :=
    listText_of_listed? reads.padded (fun s => by rw [skipSpace_skipSpace]) done
  exact ⟨'[' :: (text ++ [']']), by simp, fits_array spelled⟩

theorem fits_of_object? (reads : ReadsValue (value? depth) (Fits depth)) {v : Json}
    (front : object? (value? depth) s = some (v, rest)) :
    ∃ text, '\x7b' :: s = text ++ rest ∧ Fits (depth + 1) text v := by
  rw [object?_eq_listed?, Option.map_eq_some_iff] at front
  obtain ⟨⟨members, left⟩, done, eq⟩ := front
  obtain ⟨rfl, rfl⟩ := Prod.mk.inj eq
  obtain ⟨text, rfl, spelled⟩ := listText_of_listed? reads.member member?_skipSpace done
  exact ⟨'\x7b' :: (text ++ ['\x7d']), by simp, fits_object spelled⟩

/-- By induction on the depth: what stands between brackets is read by the reader one level down. -/
theorem readsValue_value? (depth : Nat) : ReadsValue (value? depth) (Fits depth) := by
  induction depth using Nat.strongRecOn with
  | ind depth ih =>
    refine ⟨fun s v rest front => ?_, fun text v rest ⟨spelled, within⟩ ends => ?_,
      fun c s space => ?_⟩
    · cases depth with
      | zero =>
        unfold value? at front
        split at front
        · cases front
        · cases front
        · exact fits_of_scalar? front
      | succ depth =>
        have reads := ih depth (Nat.lt_succ_self depth)
        unfold value? at front
        split at front
        · exact fits_of_array? reads front
        · exact fits_of_object? reads front
        · exact fits_of_scalar? front
    · cases spelled with
      | null =>
        show value? depth ('n' :: 'u' :: 'l' :: 'l' :: rest) = _
        rw [value?_of_head _ (by decide), scalar?]
      | yes =>
        show value? depth ('t' :: 'r' :: 'u' :: 'e' :: rest) = _
        rw [value?_of_head _ (by decide), scalar?]
      | no =>
        show value? depth ('f' :: 'a' :: 'l' :: 's' :: 'e' :: rest) = _
        rw [value?_of_head _ (by decide), scalar?]
      | number spelled => exact value?_of_numberText depth spelled ends
      | string spelled => exact value?_of_stringText depth spelled
      | emptyArray blank =>
        cases within with
        | array => exact value?_of_listed_items (ih _ (Nat.lt_succ_self _)) (.empty blank)
      | array spelled =>
        cases within with
        | array inner =>
          refine value?_of_listed_items (ih _ (Nat.lt_succ_self _)) (.series ?_)
          exact spelled.mono fun _ v mem item => item.mono fun _ spelled => ⟨spelled, inner v mem⟩
      | emptyObject blank =>
        cases within with
        | object => exact value?_of_listed_members (ih _ (Nat.lt_succ_self _)) (.empty blank)
      | object spelled =>
        cases within with
        | object inner =>
          refine value?_of_listed_members (ih _ (Nat.lt_succ_self _)) (.series ?_)
          exact spelled.mono fun _ v mem member =>
            member.mono fun _ spelled => ⟨spelled, inner v mem⟩
    · refine value?_eq_none depth ?_ s
      have blank := isSpace_iff.mp space
      simp only [List.mem_cons, List.not_mem_nil, or_false] at blank ⊢
      tauto

/-- The texts that are read, and the values that they give. -/
theorem read?_eq_some_iff {v : Json} : read? text = some v ↔ Valid text v := by
  have reads := readsValue_value? maxDepth
  constructor
  · intro read
    unfold read? at read
    split at read
    · next v' rest front =>
      split at read
      · next empty =>
        obtain rfl := Option.some.inj read
        obtain ⟨core, split, closed⟩ := reads.padded.sound text _ rest front
        obtain ⟨blank, split', isBlank⟩ := blank_skipSpace rest
        rw [List.isEmpty_iff.mp empty, List.append_nil] at split'
        have spelled := closed rest (split' ▸ isBlank)
        rw [← split] at spelled
        refine ⟨spelled.mono fun _ fits => fits.1, ?_⟩
        obtain ⟨_, fits, _⟩ := spelled
        exact fits.2
      · cases read
    · cases read
  · rintro ⟨spelled, within⟩
    obtain ⟨core, after, rfl, blank, front⟩ :=
      reads.padded.complete text v (spelled.mono fun _ spelled => ⟨spelled, within⟩)
    have ends := ends_of_blank blank (by simp [Stops] : Ends [])
    have none := skipSpace_append blank []
    rw [List.append_nil] at ends none
    simp only [read?, front after ends, none]
    rfl

end Json

end CameraRelay
