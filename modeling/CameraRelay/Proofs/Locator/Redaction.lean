import CameraRelay.Source
import Mathlib.Data.List.Basic
import Mathlib.Data.List.TakeDrop
import Mathlib.Data.List.TakeWhile

/-!
# What redaction leaves of a login

Redaction looks for the login before the first slash. So a password is struck out whatever colons
and at signs it and the user name hold, but a slash in either of them ends the part that is looked
at, and all that follows it is shown. Main statement: `password_hidden_iff`.
-/

namespace CameraRelay

namespace Text

variable {mark : Char} {before after : List Char}

theorem splitLast?_of_not_mem {text : List Char} (absent : mark ∉ text) :
    splitLast? mark text = none := by
  induction text with
  | nil => rfl
  | cons c rest ih =>
    have apart : c ≠ mark := fun same => absent (by simp [same])
    have later : mark ∉ rest := fun mem => absent (List.mem_cons_of_mem c mem)
    simp only [splitLast?, ih later, if_neg apart]

theorem splitLast?_append (absent : mark ∉ after) :
    splitLast? mark (before ++ mark :: after) = some (before, after) := by
  induction before with
  | nil => simp only [List.nil_append, splitLast?, splitLast?_of_not_mem absent, if_true]
  | cons c rest ih => simp only [List.cons_append, splitLast?, ih]

theorem ne_of_not_mem (absent : mark ∉ before) : ∀ c ∈ before, (c != mark) = true := by
  intro c mem
  simpa using fun same : c = mark => absent (same ▸ mem)

theorem takeWhile_append_mark (absent : mark ∉ before) :
    (before ++ mark :: after).takeWhile (· != mark) = before := by
  rw [List.takeWhile_append_of_pos (ne_of_not_mem absent)]
  simp

theorem dropWhile_append_mark (absent : mark ∉ before) :
    (before ++ mark :: after).dropWhile (· != mark) = mark :: after := by
  rw [List.dropWhile_append_of_pos (ne_of_not_mem absent)]
  simp

/-- What follows a mark makes no difference to what stands before the first one. -/
theorem takeWhile_mark_append (before after : List Char) :
    (before ++ mark :: after).takeWhile (· != mark) = before.takeWhile (· != mark) := by
  by_cases mem : mark ∈ before
  · obtain ⟨first, rest, rfl, absent⟩ := List.eq_append_cons_of_mem mem
    rw [List.append_assoc, List.cons_append, takeWhile_append_mark absent,
      takeWhile_append_mark absent]
  · rw [takeWhile_append_mark mem, List.takeWhile_eq_self_iff.mpr (ne_of_not_mem mem)]

end Text

namespace Locator

open Text

/-! ### The part that redaction looks at -/

theorem splitAtSlash_eq (text : List Char) :
    splitAtSlash text = (text.takeWhile (· != '/'), text.dropWhile (· != '/')) :=
  List.span_eq_takeWhile_dropWhile _ text

theorem splitScheme_plain (rest : List Char) :
    splitScheme (plainScheme ++ rest) = (plainScheme, rest) := rfl

/-- A part before a slash with the password struck out, if it has a user part. -/
def masked (authority : List Char) : List Char :=
  match splitLast? '@' authority with
  | some (user, host) => user.takeWhile (· != ':') ++ ":***@".toList ++ host
  | none => authority

theorem masked_append {user host : List Char} (absent : '@' ∉ host) :
    masked (user ++ '@' :: host) = user.takeWhile (· != ':') ++ ":***@".toList ++ host := by
  simp only [masked, splitLast?_append absent]

/-- Behind the first slash nothing is struck out. -/
theorem redact_plain {authority : List Char} (absent : '/' ∉ authority) (rest : List Char) :
    redact (plainScheme ++ (authority ++ '/' :: rest)) =
      plainScheme ++ (masked authority ++ '/' :: rest) := by
  simp only [redact, splitScheme_plain, splitAtSlash_eq, takeWhile_append_mark absent,
    dropWhile_append_mark absent, masked]
  cases splitLast? '@' authority with
  | none => rfl
  | some parts => simp only [List.append_assoc]

/-! ### Locators with a login put in -/

def login (username password : List Char) : List Char := username ++ ':' :: password

/-- What stands behind a login that is put in: the host, and a path that begins with a slash. -/
def target (locator : List Char) : List Char :=
  let (host, path) := splitAtSlash (withoutScheme locator)
  host ++ if path.isEmpty then ['/'] else path

theorem embed_eq (username password locator : List Char) :
    embed username password locator =
      plainScheme ++ (login username password ++ '@' :: target locator) := by
  simp only [embed, target, login, List.append_assoc, List.cons_append, List.nil_append]

theorem withoutScheme_suffix (locator : List Char) : withoutScheme locator <:+ locator := by
  simp only [withoutScheme]
  cases secure : secureScheme.isPrefixOf? locator with
  | some rest => exact ⟨_, List.isPrefixOf?_eq_some_iff_append_eq.mp secure⟩
  | none =>
    cases plain : plainScheme.isPrefixOf? locator with
    | some rest => exact ⟨_, List.isPrefixOf?_eq_some_iff_append_eq.mp plain⟩
    | none => exact List.suffix_rfl

theorem target_eq {locator : List Char} (bare : '@' ∉ locator) :
    ∃ host rest, target locator = host ++ '/' :: rest ∧ '/' ∉ host ∧ '@' ∉ host := by
  have kept := withoutScheme_suffix locator
  simp only [target, splitAtSlash_eq]
  generalize withoutScheme locator = text at kept
  by_cases slash : '/' ∈ text
  · obtain ⟨host, rest, rfl, absent⟩ := List.eq_append_cons_of_mem slash
    refine ⟨host, rest, ?_, absent, fun mem => bare (kept.subset (List.mem_append_left _ mem))⟩
    simp [takeWhile_append_mark absent, dropWhile_append_mark absent]
  · refine ⟨text, [], ?_, slash, fun mem => bare (kept.subset mem)⟩
    simp [List.takeWhile_eq_self_iff.mpr (ne_of_not_mem slash),
      List.dropWhile_eq_nil_iff.mpr (ne_of_not_mem slash)]

end Locator

namespace Source

open Text Locator

def withLogin (locator username password : String) : Source :=
  { locator, credentials := some ⟨username, password⟩ }

/-- What is logged of a source when its decoder is started. -/
def logged (source : Source) : List Char := redact source.effectiveLocator.toList

section

variable {locator username password other : String} (bare : '@' ∉ locator.toList)
  (named : username ≠ "") (secret : password ≠ "")

include bare named secret

theorem logged_withLogin : (withLogin locator username password).logged =
    redact (plainScheme ++
      (login username.toList password.toList ++ '@' :: target locator.toList)) := by
  rw [← embed_eq]
  simp [logged, withLogin, effectiveLocator, effective, named, secret, bare]

theorem logged_of_clear (user : '/' ∉ username.toList) (pass : '/' ∉ password.toList) :
    (withLogin locator username password).logged =
      plainScheme ++
        (username.toList.takeWhile (· != ':') ++ ":***".toList ++ '@' :: target locator.toList) := by
  obtain ⟨host, rest, eq, slashless, unsigned⟩ := target_eq bare
  have absent : '/' ∉ login username.toList password.toList ++ '@' :: host := by
    simp [login, user, pass, slashless]
  have redacted := redact_plain absent rest
  rw [masked_append unsigned, login, takeWhile_mark_append] at redacted
  rw [logged_withLogin bare named secret, eq, login]
  simpa using redacted

theorem logged_of_slash {before after : List Char}
    (split : login username.toList password.toList = before ++ '/' :: after)
    (absent : '/' ∉ before) :
    (withLogin locator username password).logged =
      plainScheme ++ (masked before ++ '/' :: after ++ '@' :: target locator.toList) := by
  have redacted := redact_plain absent (after ++ '@' :: target locator.toList)
  rw [logged_withLogin bare named secret, split]
  simpa using redacted

/-- A password stands behind the slash of its user name, and so it is shown. -/
theorem eq_of_logged_eq (set : other ≠ "") (user : '/' ∈ username.toList)
    (same : (withLogin locator username password).logged =
      (withLogin locator username other).logged) : password = other := by
  obtain ⟨before, after, split, absent⟩ := List.eq_append_cons_of_mem user
  have behind (pass : String) : login username.toList pass.toList =
      before ++ '/' :: (after ++ ':' :: pass.toList) := by
    simp [login, split]
  rw [logged_of_slash bare named secret (behind password) absent,
    logged_of_slash bare named set (behind other) absent] at same
  refine String.toList_injective ?_
  simpa using same

/-- The slash of a password is shown, and there is none where a password was struck out. -/
theorem logged_ne_of_slash (set : other ≠ "") (user : '/' ∉ username.toList)
    (pass : '/' ∈ password.toList) (clear : '/' ∉ other.toList) :
    (withLogin locator username password).logged ≠ (withLogin locator username other).logged := by
  intro same
  obtain ⟨before, after, split, absent⟩ := List.eq_append_cons_of_mem pass
  have behind : login username.toList password.toList =
      (username.toList ++ ':' :: before) ++ '/' :: after := by
    simp [login, split]
  rw [logged_of_slash bare named secret behind (by simp [user, absent]),
    logged_of_clear bare named set user clear] at same
  have shown := List.append_cancel_right (List.append_cancel_left same)
  have mem : '/' ∈ username.toList.takeWhile (· != ':') ++ ":***".toList := by
    rw [← shown]
    exact List.mem_append_right _ (List.mem_cons_self ..)
  rcases List.mem_append.mp mem with kept | stars
  · exact user ((List.takeWhile_prefix _).subset kept)
  · exact absurd stars (by decide)

/-- The log of a locator into which a login was put is the same for every password without a slash
exactly if neither the user name nor the password at hand holds one. From the first slash of a login
on, everything is shown as it is. -/
theorem password_hidden_iff :
    ((∀ other : String, other ≠ "" → '/' ∉ other.toList →
        (withLogin locator username password).logged = (withLogin locator username other).logged) ↔
      '/' ∉ username.toList ∧ '/' ∉ password.toList) ∧
    (login username.toList password.toList).dropWhile (· != '/') <:+:
      (withLogin locator username password).logged := by
  refine ⟨⟨fun same => ?_, fun clear other set pass => ?_⟩, ?_⟩
  · by_cases user : '/' ∈ username.toList
    · have told {other : String} (set : other ≠ "") (clear : '/' ∉ other.toList) :
          password = other :=
        eq_of_logged_eq bare named secret set user (same other set clear)
      have first := @told "a" (by decide) (by decide)
      have second := @told "b" (by decide) (by decide)
      exact absurd (first.symm.trans second) (by decide)
    · refine ⟨user, fun pass => ?_⟩
      exact logged_ne_of_slash bare named secret (by decide) user pass (by decide)
        (same "a" (by decide) (by decide))
  · rw [logged_of_clear bare named secret clear.1 clear.2,
      logged_of_clear bare named set clear.1 pass]
  · by_cases slash : '/' ∈ login username.toList password.toList
    · obtain ⟨before, after, split, absent⟩ := List.eq_append_cons_of_mem slash
      rw [logged_of_slash bare named secret split absent, split, dropWhile_append_mark absent]
      exact ⟨plainScheme ++ masked before, '@' :: target locator.toList, by simp⟩
    · rw [List.dropWhile_eq_nil_iff.mpr (ne_of_not_mem slash)]
      exact List.nil_infix

end

/-- Of a password with a slash nothing is struck out, though an at sign stands before it. -/
theorem password_hidden_iff_slash :
    '@' ∉ "rtsp://cam/1".toList ∧ "a@b" ≠ "" ∧ "c:d/e" ≠ "" ∧
      "/e".toList <:+: (withLogin "rtsp://cam/1" "a@b" "c:d/e").logged ∧
      ¬ ∀ other : String, other ≠ "" → '/' ∉ other.toList →
        (withLogin "rtsp://cam/1" "a@b" "c:d/e").logged =
          (withLogin "rtsp://cam/1" "a@b" other).logged := by
  have shown := @password_hidden_iff "rtsp://cam/1" "a@b" "c:d/e" (by decide) (by decide)
    (by decide)
  exact ⟨by decide, by decide, by decide, shown.2,
    fun same => (shown.1.mp same).2 (by decide)⟩

/-- A camera whose locator a directory takes, and two passwords that its log tells apart. -/
theorem slash_shows_password :
    (({} : Directory).register ⟨"cam-1"⟩ (withLogin "rtsp://cam/1" "u" "a/b")).isOk = true ∧
    (({} : Directory).register ⟨"cam-1"⟩ (withLogin "rtsp://cam/1" "u" "c")).isOk = true ∧
    '@' ∉ "rtsp://cam/1".toList ∧ "u" ≠ "" ∧ "a/b" ≠ "" ∧ "c" ≠ "" ∧
    (withLogin "rtsp://cam/1" "u" "a/b").logged ≠ (withLogin "rtsp://cam/1" "u" "c").logged := by
  decide

end Source

end CameraRelay
