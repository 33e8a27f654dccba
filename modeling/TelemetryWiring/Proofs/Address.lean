import Mathlib.Data.List.DropRight
import TelemetryWiring.Git
import TelemetryWiring.Proofs.Text.Affix

/-!
Addresses and the credentials in them. An address is its scheme, its authority and its path, in one
way only; without credentials its authority is what follows the last `@`, and nothing else changes.
The scheme does not count: the user name of an address that is not of the web goes as well.
-/
namespace TelemetryWiring

/-- Whether a text has the mark that stands between the scheme of an address and its authority. -/
def NamesScheme (url : String) : Prop := "://".toList <:+: url.toList

instance (url : String) : Decidable (NamesScheme url) :=
  inferInstanceAs (Decidable ("://".toList <:+: url.toList))

/-- An address with a scheme. The scheme reaches to the first `://` and the authority from there to
the next slash, or to the end. -/
structure Address where
  scheme : String
  authority : String
  path : String
  mark_free : ¬NamesScheme scheme
  slash_free : '/' ∉ authority.toList
  path_start : ∀ c ∈ path.toList.head?, c = '/'

theorem schemeMark_ne_nil : "://".toList ≠ [] := by decide

theorem isUnbordered_schemeMark : Text.IsUnbordered "://".toList := by
  intro l hne hsuffix hprefix
  have hmark : "://".toList = [':', '/', '/'] := rfl
  rw [hmark] at hsuffix hprefix ⊢
  rcases List.suffix_cons_iff.mp hsuffix with rfl | hsuffix
  · rfl
  rcases List.suffix_cons_iff.mp hsuffix with rfl | hsuffix
  · exact absurd hprefix (by decide)
  rcases List.suffix_cons_iff.mp hsuffix with rfl | hsuffix
  · exact absurd hprefix (by decide)
  · exact absurd (List.suffix_nil.mp hsuffix) hne

namespace Address

/-- The written address. -/
def text (a : Address) : String := a.scheme ++ "://" ++ a.authority ++ a.path

/-- Whether an address is one of the web, in letters of any case. -/
def IsWeb (a : Address) : Prop :=
  Text.lowerCase a.scheme = "http" ∨ Text.lowerCase a.scheme = "https"

instance (a : Address) : Decidable a.IsWeb := inferInstanceAs (Decidable (_ ∨ _))

/-- What an authority says without the credentials before its last `@`. -/
def host (a : Address) : String := .ofList (a.authority.toList.rtakeWhile (· ≠ '@'))

theorem toList_text (a : Address) :
    a.text.toList =
      a.scheme.toList ++ ("://".toList ++ (a.authority.toList ++ a.path.toList)) := by
  simp only [text, String.toList_append, List.append_assoc]

theorem cut?_text (a : Address) :
    Text.cut? "://".toList a.text.toList =
      some (a.scheme.toList, a.authority.toList ++ a.path.toList) := by
  rw [toList_text]
  exact Text.cut?_append_append schemeMark_ne_nil isUnbordered_schemeMark a.mark_free _

theorem takeWhile_path (a : Address) : a.path.toList.takeWhile (· ≠ '/') = [] := by
  have hstart := a.path_start
  cases hpath : a.path.toList with
  | nil => rfl
  | cons c cs =>
    rw [hpath] at hstart
    simp [hstart c rfl]

theorem takeWhile_rest (a : Address) :
    (a.authority.toList ++ a.path.toList).takeWhile (· ≠ '/') = a.authority.toList := by
  have hfree : ∀ c ∈ a.authority.toList, decide (c ≠ '/') = true := by
    intro c hc
    exact decide_eq_true fun h => a.slash_free (h ▸ hc)
  rw [List.takeWhile_append_of_pos hfree, takeWhile_path, List.append_nil]

theorem dropWhile_rest (a : Address) :
    (a.authority.toList ++ a.path.toList).dropWhile (· ≠ '/') = a.path.toList := by
  have hparts : (a.authority.toList ++ a.path.toList).takeWhile (· ≠ '/') ++
      (a.authority.toList ++ a.path.toList).dropWhile (· ≠ '/') =
        a.authority.toList ++ a.path.toList := List.takeWhile_append_dropWhile
  rw [takeWhile_rest] at hparts
  exact List.append_cancel_left hparts

/-- A text is the writing of one address at most. -/
theorem text_injective {a b : Address} (h : a.text = b.text) : a = b := by
  have hcut := a.cut?_text
  rw [h, b.cut?_text] at hcut
  obtain ⟨hscheme, hrest⟩ := Prod.mk.injEq .. ▸ Option.some.inj hcut
  have hauthority : b.authority.toList = a.authority.toList := by
    rw [← b.takeWhile_rest, hrest, a.takeWhile_rest]
  have hpath : b.path.toList = a.path.toList := by
    rw [← b.dropWhile_rest, hrest, a.dropWhile_rest]
  cases a
  cases b
  simp only [mk.injEq]
  exact ⟨(String.toList_inj.mp hscheme).symm, (String.toList_inj.mp hauthority).symm,
    (String.toList_inj.mp hpath).symm⟩

/-- The texts with a mark are the written addresses. -/
theorem exists_text_eq_iff {url : String} : (∃ a : Address, a.text = url) ↔ NamesScheme url := by
  constructor
  · rintro ⟨a, rfl⟩
    refine ⟨a.scheme.toList, a.authority.toList ++ a.path.toList, ?_⟩
    rw [toList_text, List.append_assoc]
  · intro hmark
    rcases Text.cut?_cases schemeMark_ne_nil url.toList with
      ⟨-, hfree⟩ | ⟨scheme, rest, -, hurl, hfree⟩
    · exact absurd hmark hfree
    · refine ⟨⟨.ofList scheme, .ofList (rest.takeWhile (· ≠ '/')),
        .ofList (rest.dropWhile (· ≠ '/')), ?_, ?_, ?_⟩, ?_⟩
      · simpa only [NamesScheme, String.toList_ofList] using hfree
      · intro hslash
        rw [String.toList_ofList] at hslash
        simpa using List.mem_takeWhile_imp hslash
      · intro c hc
        rw [String.toList_ofList] at hc
        have hstop := List.head?_dropWhile_not (fun c => decide (c ≠ '/')) rest
        rw [Option.mem_def.mp hc] at hstop
        simpa using hstop
      · rw [← String.toList_inj, toList_text]
        simp only [String.toList_ofList, List.takeWhile_append_dropWhile]
        rw [hurl, List.append_assoc]

theorem at_not_mem_host (a : Address) : '@' ∉ a.host.toList := by
  intro hmem
  rw [host, String.toList_ofList] at hmem
  simpa using List.mem_rtakeWhile_imp hmem

theorem host_eq_authority_iff {a : Address} : a.host = a.authority ↔ '@' ∉ a.authority.toList := by
  constructor
  · intro h
    rw [← h]
    exact a.at_not_mem_host
  · intro hfree
    rw [← String.toList_inj, host, String.toList_ofList, List.rtakeWhile_eq_self_iff]
    intro c hc
    exact decide_eq_true fun h => hfree (h ▸ hc)

theorem host_eq_of_authority_eq {a : Address} {userinfo host : String}
    (h : a.authority = userinfo ++ "@" ++ host) (hfree : '@' ∉ host.toList) : a.host = host := by
  have hchars : a.authority.toList = userinfo.toList ++ '@' :: host.toList := by
    rw [h]
    simp
  rw [← String.toList_inj, Address.host, String.toList_ofList, hchars]
  exact Text.rtakeWhile_append_cons hfree userinfo.toList

/-- The address without credentials. -/
def bare (a : Address) : Address :=
  { a with
    authority := a.host
    slash_free := by
      rw [host, String.toList_ofList]
      exact fun hmem => a.slash_free ((List.rtakeWhile_suffix _ _).subset hmem) }

theorem bare_eq_self_iff {a : Address} : a.bare = a ↔ '@' ∉ a.authority.toList := by
  rw [← host_eq_authority_iff]
  constructor
  · exact congrArg authority
  · intro h
    cases a
    simpa only [bare, mk.injEq, true_and, and_true] using h

theorem bare_bare (a : Address) : a.bare.bare = a.bare := bare_eq_self_iff.mpr a.at_not_mem_host

theorem withoutCredentials_text (a : Address) : withoutCredentials a.text = a.bare.text := by
  have hbare : a.bare.text = a.scheme ++ "://" ++ a.host ++ a.path := rfl
  unfold withoutCredentials
  rw [cut?_text]
  dsimp only
  rw [takeWhile_rest, dropWhile_rest, Text.afterLast?_eq]
  by_cases hcredentials : '@' ∈ a.authority.toList
  · rw [if_pos hcredentials, ← String.toList_inj, hbare]
    simp only [host, String.toList_ofList, String.toList_append, List.append_assoc]
  · rw [if_neg hcredentials, bare_eq_self_iff.mpr hcredentials]

end Address

/-- A text without a mark is no address with a scheme, and nothing is dropped from it. -/
theorem withoutCredentials_of_not_namesScheme {url : String} (h : ¬NamesScheme url) :
    withoutCredentials url = url := by
  rcases Text.cut?_cases schemeMark_ne_nil url.toList with
    ⟨hcut, -⟩ | ⟨scheme, rest, -, hurl, -⟩
  · unfold withoutCredentials
    rw [hcut]
  · exact absurd ⟨scheme, rest, hurl.symm⟩ h

theorem withoutCredentials_withoutCredentials (url : String) :
    withoutCredentials (withoutCredentials url) = withoutCredentials url := by
  by_cases hmark : NamesScheme url
  · obtain ⟨a, rfl⟩ := Address.exists_text_eq_iff.mpr hmark
    rw [a.withoutCredentials_text, Address.withoutCredentials_text, a.bare_bare]
  · rw [withoutCredentials_of_not_namesScheme hmark, withoutCredentials_of_not_namesScheme hmark]

theorem namesScheme_withoutCredentials_iff {url : String} :
    NamesScheme (withoutCredentials url) ↔ NamesScheme url := by
  by_cases hmark : NamesScheme url
  · obtain ⟨a, rfl⟩ := Address.exists_text_eq_iff.mpr hmark
    rw [a.withoutCredentials_text]
    exact iff_of_true (Address.exists_text_eq_iff.mp ⟨_, rfl⟩) hmark
  · rw [withoutCredentials_of_not_namesScheme hmark]

/-- An address is left alone exactly if there is no `@` in its authority. -/
theorem Address.withoutCredentials_text_eq_self_iff {a : Address} :
    withoutCredentials a.text = a.text ↔ '@' ∉ a.authority.toList := by
  rw [withoutCredentials_text, ← bare_eq_self_iff]
  exact ⟨text_injective, congrArg text⟩

/-- What is asked of a function that takes credentials out of addresses. -/
structure DropsCredentials (clean : String → String) : Prop where
  idempotent : ∀ url, clean (clean url) = clean url
  /-- What comes out for an address is an address again. -/
  exists_address : ∀ url, NamesScheme url → ∃ a : Address, a.text = clean url
  no_credentials : ∀ url, ∀ a : Address, a.text = clean url → '@' ∉ a.authority.toList
  /-- The user information goes, with any at signs and colons in it, and the rest stays. -/
  drops : ∀ scheme userinfo host path : String, ¬NamesScheme scheme → '/' ∉ userinfo.toList →
    '@' ∉ host.toList → '/' ∉ host.toList → (∀ c ∈ path.toList.head?, c = '/') →
      clean (scheme ++ "://" ++ userinfo ++ "@" ++ host ++ path) =
          scheme ++ "://" ++ host ++ path ∧
        clean (scheme ++ "://" ++ host ++ path) = scheme ++ "://" ++ host ++ path
  keeps : ∀ url, ¬NamesScheme url → clean url = url

theorem dropsCredentials_withoutCredentials : DropsCredentials withoutCredentials := by
  constructor
  case idempotent => exact withoutCredentials_withoutCredentials
  case exists_address =>
    intro url hmark
    exact Address.exists_text_eq_iff.mpr (namesScheme_withoutCredentials_iff.mpr hmark)
  case no_credentials =>
    intro url a ha
    rw [← Address.withoutCredentials_text_eq_self_iff, ha]
    exact withoutCredentials_withoutCredentials url
  case drops =>
    intro scheme userinfo host path hscheme huser hat hslash hpath
    have hauthority : '/' ∉ (userinfo ++ "@" ++ host).toList := by
      simp [huser, hslash]
    let plain : Address := ⟨scheme, host, path, hscheme, hslash, hpath⟩
    let full : Address := ⟨scheme, userinfo ++ "@" ++ host, path, hscheme, hauthority, hpath⟩
    have hbare : full.bare = plain := by
      simp only [Address.bare, Address.mk.injEq, true_and, and_true, full, plain]
      exact Address.host_eq_of_authority_eq rfl hat
    have hfull : full.text = scheme ++ "://" ++ userinfo ++ "@" ++ host ++ path := by
      simp only [Address.text, full, String.append_assoc]
    have hkept : withoutCredentials plain.text = plain.text :=
      Address.withoutCredentials_text_eq_self_iff.mpr hat
    refine ⟨?_, hkept⟩
    rw [← hfull, full.withoutCredentials_text, hbare]
    rfl
  case keeps => exact fun _ => withoutCredentials_of_not_namesScheme

/-- Credentials with an at sign of their own, before a path with another one. -/
theorem dropsCredentials_of_two_at_signs :
    withoutCredentials "https://us@er:pw@host/x@v1" = "https://host/x@v1" :=
  (dropsCredentials_withoutCredentials.drops "https" "us@er:pw" "host" "/x@v1" (by decide)
    (by decide) (by decide) (by decide) (by simp)).1

/-- Whatever its scheme, a text is left alone exactly if there is no `@` in its authority. -/
theorem withoutCredentials_eq_self_iff {url : String} :
    withoutCredentials url = url ↔ ∀ a : Address, a.text = url → '@' ∉ a.authority.toList := by
  constructor
  · rintro h a rfl
    exact Address.withoutCredentials_text_eq_self_iff.mp h
  · intro hfree
    by_cases hmark : NamesScheme url
    · obtain ⟨a, rfl⟩ := Address.exists_text_eq_iff.mpr hmark
      exact Address.withoutCredentials_text_eq_self_iff.mpr (hfree a rfl)
    · exact withoutCredentials_of_not_namesScheme hmark

/-- The user name of an address that is not of the web is dropped. -/
theorem user_of_ssh_address_is_dropped :
    ∃ a : Address, a.text = "ssh://git@host/repo" ∧ ¬a.IsWeb ∧
      withoutCredentials a.text ≠ a.text :=
  ⟨⟨"ssh", "git@host", "/repo", by decide, by decide, by simp⟩, by decide, by decide, by decide⟩

end TelemetryWiring
