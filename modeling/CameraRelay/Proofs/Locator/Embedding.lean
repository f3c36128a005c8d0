import CameraRelay.Proofs.Locator.Exactness

/-!
# Where an embedded login leaves the camera

A login is put between the scheme and the host, and only into a locator without an at sign. So
whatever the login is made of, its end is found again at the last at sign, and what stands behind
that is the address that was registered. Main statement: `leads_of_streaming`.
-/

namespace CameraRelay

namespace Locator

open Text

variable {locator : List Char}

def streamingSchemes : List (List Char) := [plainScheme, secureScheme]

theorem isStreaming_iff :
    isStreaming locator = true ↔ ∃ scheme ∈ streamingSchemes, scheme <+: locator := by
  simp [isStreaming, streamingSchemes]

/-- Neither of the schemes begins the other, so the one that is there is the one that is found. -/
theorem withoutScheme_append {scheme : List Char} (streams : scheme ∈ streamingSchemes)
    (rest : List Char) : withoutScheme (scheme ++ rest) = rest := by
  simp only [streamingSchemes, List.mem_cons, List.not_mem_nil, or_false] at streams
  rcases streams with rfl | rfl <;> rfl

/-- A path is given to an address that has none. -/
def withPath (address : List Char) : List Char :=
  address ++ if '/' ∈ address then [] else ['/']

theorem target_eq_withPath (locator : List Char) :
    target locator = withPath (withoutScheme locator) := by
  obtain ⟨host, path, split, slashless, start⟩ := splitAtSlash_parts (withoutScheme locator)
  simp only [target, withPath, split, splitAtSlash_append slashless start]
  rcases start with rfl | ⟨behind, rfl⟩
  · simp [slashless]
  · simp

theorem not_mem_withPath {mark : Char} {address : List Char} (letter : mark ≠ '/')
    (absent : mark ∉ address) : mark ∉ withPath address := by
  intro mem
  rcases List.mem_append.mp mem with before | path
  · exact absent before
  · split at path
    · exact List.not_mem_nil path
    · exact letter (List.mem_singleton.mp path)

/-! ### The locator for a decoder -/

/-- A login of which nothing is missing. -/
def HasLogin (credentials : Option Credentials) (username password : String) : Prop :=
  credentials = some ⟨username, password⟩ ∧ username ≠ "" ∧ password ≠ ""

theorem effective_of_signed (signed : '@' ∈ locator) (credentials : Option Credentials) :
    effective locator credentials = locator := by
  cases credentials with
  | none => rfl
  | some c => simp [effective, signed]

theorem effective_of_no_login {credentials : Option Credentials}
    (lacking : ∀ username password, ¬ HasLogin credentials username password) :
    effective locator credentials = locator := by
  cases credentials with
  | none => rfl
  | some c =>
    have empty : c.username = "" ∨ c.password = "" := by
      by_contra both
      rw [not_or] at both
      exact lacking c.username c.password ⟨rfl, both.1, both.2⟩
    simp only [effective]
    rw [if_pos]
    rcases empty with empty | empty <;> simp [empty]

theorem effective_of_login {credentials : Option Credentials} {username password : String}
    (whole : HasLogin credentials username password) (bare : '@' ∉ locator) :
    effective locator credentials =
      plainScheme ++ (login username.toList password.toList ++
        '@' :: withPath (withoutScheme locator)) := by
  obtain ⟨rfl, named, secret⟩ := whole
  rw [← target_eq_withPath, ← embed_eq]
  simp [effective, named, secret, bare]

end Locator

namespace Source

open Text Locator

variable {source : Source} {scheme address : List Char} {username password : String}

theorem effectiveLocator_of_signed (signed : '@' ∈ source.locator.toList) :
    source.effectiveLocator = source.locator := by
  rw [effectiveLocator, effective_of_signed signed, String.ofList_toList]

theorem effectiveLocator_of_no_login
    (lacking : ∀ username password, ¬ HasLogin source.credentials username password) :
    source.effectiveLocator = source.locator := by
  rw [effectiveLocator, effective_of_no_login lacking, String.ofList_toList]

theorem effectiveLocator_of_login (streams : scheme ∈ streamingSchemes)
    (split : source.locator.toList = scheme ++ address)
    (whole : HasLogin source.credentials username password) (bare : '@' ∉ source.locator.toList) :
    source.effectiveLocator.toList =
      plainScheme ++ (login username.toList password.toList ++ '@' :: withPath address) := by
  rw [effectiveLocator, String.toList_ofList, effective_of_login whole bare, split,
    withoutScheme_append streams]

theorem signed_of_login (streaming : isStreaming source.locator.toList = true)
    (whole : HasLogin source.credentials username password) (bare : '@' ∉ source.locator.toList) :
    '@' ∈ source.effectiveLocator.toList := by
  obtain ⟨scheme, streams, address, split⟩ := isStreaming_iff.mp streaming
  rw [effectiveLocator_of_login streams split.symm whole bare]
  simp

theorem isStreaming_effectiveLocator (streaming : isStreaming source.locator.toList = true) :
    isStreaming source.effectiveLocator.toList = true := by
  by_cases signed : '@' ∈ source.locator.toList
  · rwa [effectiveLocator_of_signed signed]
  · by_cases entered : ∃ username password, HasLogin source.credentials username password
    · obtain ⟨username, password, whole⟩ := entered
      obtain ⟨scheme, streams, address, split⟩ := isStreaming_iff.mp streaming
      rw [effectiveLocator_of_login streams split.symm whole signed]
      exact isStreaming_iff.mpr ⟨plainScheme, List.mem_cons_self .., List.prefix_append ..⟩
    · simp only [not_exists] at entered
      rwa [effectiveLocator_of_no_login entered]

/-- What a decoder is given leads to the camera that was registered. -/
structure Leads (source : Source) : Prop where
  /-- A decoder reads it. -/
  streams : ∃ scheme ∈ streamingSchemes, scheme <+: source.effectiveLocator.toList
  /-- A locator that may carry a login already, or for which there is none, is not touched. -/
  kept : ('@' ∈ source.locator.toList ∨
      ∀ username password, ¬ HasLogin source.credentials username password) →
    source.effectiveLocator = source.locator
  /-- Behind the last at sign stands the address, however the login is spelt. -/
  embeds : ∀ username password, HasLogin source.credentials username password →
    '@' ∉ source.locator.toList →
    ∃ scheme ∈ streamingSchemes, ∃ address,
      source.locator.toList = scheme ++ address ∧ '@' ∉ withPath address ∧
        source.effectiveLocator.toList =
          plainScheme ++ (login username.toList password.toList ++ '@' :: withPath address)
  /-- No second login is put in front of the first. -/
  once : ∀ username password, HasLogin source.credentials username password →
    '@' ∉ source.locator.toList →
    ∀ credentials, ({ locator := source.effectiveLocator, credentials } : Source).effectiveLocator =
      source.effectiveLocator

theorem leads_of_streaming (streaming : isStreaming source.locator.toList = true) :
    source.Leads := by
  refine ⟨isStreaming_iff.mp (isStreaming_effectiveLocator streaming), ?_, ?_, ?_⟩
  · rintro (signed | lacking)
    · exact effectiveLocator_of_signed signed
    · exact effectiveLocator_of_no_login lacking
  · intro username password whole bare
    obtain ⟨scheme, streams, address, split⟩ := isStreaming_iff.mp streaming
    have unsigned : '@' ∉ address := fun mem => bare (split ▸ List.mem_append_right scheme mem)
    exact ⟨scheme, streams, address, split.symm, not_mem_withPath (by decide) unsigned,
      effectiveLocator_of_login streams split.symm whole bare⟩
  · intro username password whole bare _
    exact effectiveLocator_of_signed (signed_of_login streaming whole bare)

end Source

end CameraRelay
