import Mathlib.Data.List.DropRight
import Mathlib.Data.List.TakeWhile
import InterfaceDiscovery.Settings

/-!
Reading the settings back. The skip prefixes are the comma-separated fields of their variable,
trimmed, blank ones dropped, in order; unset, they are the default list. Every prefix is then
non-blank, trimmed and free of commas, and any list of such texts, joined by commas and written
to the variable, is read back as itself: writing the prefixes read and reading them again
changes nothing. The server hostname is the trimmed value of its variable when that is not blank.
Trimming removes exactly the blanks at both ends, so a trimmed text is trimmed again to itself
and is empty exactly when the text was blank.
-/

namespace InterfaceDiscovery

namespace Text

theorem trimChars_eq (cs : List Char) :
    trimChars cs = (cs.dropWhile isBlank).rdropWhile isBlank :=
  rfl

-- What trimming keeps begins where the leading blanks end, so no blank is left at its front.
theorem dropWhile_trimChars (cs : List Char) :
    (trimChars cs).dropWhile isBlank = trimChars cs := by
  have hfront := List.head?_dropWhile_not isBlank cs
  obtain ⟨rest, hrest⟩ : ∃ rest, trimChars cs ++ rest = cs.dropWhile isBlank :=
    List.rdropWhile_prefix isBlank (cs.dropWhile isBlank)
  cases hkept : trimChars cs with
  | nil => rfl
  | cons c kept =>
    rw [hkept, List.cons_append] at hrest
    rw [← hrest] at hfront
    exact List.dropWhile_cons_of_neg (by simpa using hfront)

theorem trimChars_trimChars (cs : List Char) : trimChars (trimChars cs) = trimChars cs := by
  rw [trimChars_eq (trimChars cs), dropWhile_trimChars, trimChars_eq, List.rdropWhile_idempotent]

theorem trimChars_sublist (cs : List Char) : (trimChars cs).Sublist cs :=
  (List.rdropWhile_prefix isBlank _).sublist.trans (List.dropWhile_sublist isBlank)

theorem trimChars_eq_nil_iff (cs : List Char) : trimChars cs = [] ↔ ∀ c ∈ cs, isBlank c := by
  rw [trimChars_eq, List.rdropWhile_eq_nil_iff]
  constructor
  case mp =>
    intro hall
    apply List.dropWhile_eq_nil_iff.mp
    have hfront := List.head?_dropWhile_not isBlank cs
    cases hrest : cs.dropWhile isBlank with
    | nil => rfl
    | cons c rest =>
      rw [hrest] at hfront hall
      have hc : isBlank c = true := hall c List.mem_cons_self
      simp_all
  case mpr => exact fun hall c hc => hall c ((List.dropWhile_sublist isBlank).subset hc)

theorem toList_trim (s : String) : (trim s).toList = trimChars s.toList :=
  String.toList_ofList

theorem trim_trim (s : String) : trim (trim s) = trim s := by
  rw [trim, toList_trim, trimChars_trimChars]
  rfl

theorem trim_eq_empty_iff (s : String) : trim s = "" ↔ isBlankText s = true := by
  rw [trim, String.ofList_eq_empty_iff, trimChars_eq_nil_iff, isBlankText, List.all_eq_true]

theorem not_mem_trim {c : Char} {s : String} (h : c ∉ s.toList) : c ∉ (trim s).toList := by
  rw [toList_trim]
  exact fun hc => h ((trimChars_sublist _).subset hc)

end Text

/-! The fields between the commas. -/

-- No field holds a comma: induction on the characters, a comma starting a new field and any other
-- character joining the first one.
theorem comma_not_mem_of_mem_splitOn : ∀ {cs l : List Char}, l ∈ cs.splitOn ',' → ',' ∉ l
  | [], l, h => by simp_all [List.splitOn_nil]
  | c :: cs, l, h => by
    rw [List.splitOn_cons_eq_if_modifyHead] at h
    by_cases hc : c = ','
    case pos =>
      rw [if_pos (by simp [hc])] at h
      rcases List.mem_cons.mp h with rfl | h
      case inl => simp
      case inr => exact comma_not_mem_of_mem_splitOn h
    case neg =>
      rw [if_neg (by simpa using hc)] at h
      obtain ⟨first, later, hsplit⟩ := List.exists_cons_of_ne_nil (List.splitOn_ne_nil ',' cs)
      rw [hsplit, List.modifyHead_cons] at h
      rcases List.mem_cons.mp h with rfl | h
      case inl =>
        have hfirst : ',' ∉ first := comma_not_mem_of_mem_splitOn (hsplit ▸ List.mem_cons_self)
        simp [hfirst, Ne.symm hc]
      case inr => exact comma_not_mem_of_mem_splitOn (hsplit ▸ List.mem_cons_of_mem first h)

theorem comma_not_mem_of_mem_commaFields {s f : String} (h : f ∈ commaFields s) :
    ',' ∉ f.toList := by
  obtain ⟨cs, hcs, rfl⟩ := List.mem_map.mp h
  rw [String.toList_ofList]
  exact comma_not_mem_of_mem_splitOn hcs

theorem intercalate_commaFields (s : String) : ",".intercalate (commaFields s) = s := by
  apply String.toList_injective
  have hsep : ",".toList = [','] := rfl
  simp [commaFields, String.toList_intercalate, hsep, List.map_map, Function.comp_def]

theorem commaFields_intercalate {fields : List String} (hne : fields ≠ [])
    (hfields : ∀ f ∈ fields, ',' ∉ f.toList) : commaFields (",".intercalate fields) = fields := by
  have hsep : ",".toList = [','] := rfl
  have hsplit : ([','].intercalate (fields.map String.toList)).splitOn ',' =
      fields.map String.toList := by
    apply List.splitOn_intercalate
    case hx => simpa using hfields
    case hls => simpa using hne
  rw [commaFields, String.toList_intercalate, hsep, hsplit, List.map_map]
  simp [Function.comp_def]

-- The items of a text are its trimmed non-blank fields, for any way of writing the text as fields
-- joined by commas.
theorem splitItems_eq_of_intercalate {s : String} {fields : List String}
    (hs : ",".intercalate fields = s) (hfields : ∀ f ∈ fields, ',' ∉ f.toList) :
    splitItems s = (fields.map Text.trim).filter (!·.isEmpty) := by
  cases fields with
  | nil =>
    subst hs
    rfl
  | cons f fs => rw [splitItems, ← hs, commaFields_intercalate (List.cons_ne_nil f fs) hfields]

def IsSkipItem (p : String) : Prop :=
  p ≠ "" ∧ Text.trim p = p ∧ ',' ∉ p.toList

theorem isSkipItem_of_mem_splitItems {s p : String} (h : p ∈ splitItems s) : IsSkipItem p := by
  obtain ⟨hmem, hne⟩ := List.mem_filter.mp h
  obtain ⟨f, hf, rfl⟩ := List.mem_map.mp hmem
  refine ⟨?_, Text.trim_trim f, Text.not_mem_trim (comma_not_mem_of_mem_commaFields hf)⟩
  simpa [String.isEmpty_eq_false_iff] using hne

theorem splitItems_intercalate {xs : List String} (hxs : ∀ x ∈ xs, IsSkipItem x) :
    splitItems (",".intercalate xs) = xs := by
  rw [splitItems_eq_of_intercalate rfl fun x hx => (hxs x hx).2.2]
  have htrim : xs.map Text.trim = xs :=
    calc xs.map Text.trim = xs.map id := List.map_congr_left fun x hx => (hxs x hx).2.1
      _ = xs := List.map_id xs
  rw [htrim]
  apply List.filter_eq_self.mpr
  intro x hx
  simpa [String.isEmpty_eq_false_iff] using (hxs x hx).1

namespace Settings

theorem isSkipItem_of_mem_defaultSkipPrefixes {p : String} (h : p ∈ defaultSkipPrefixes) :
    IsSkipItem p := by
  simp only [defaultSkipPrefixes, List.mem_cons, List.not_mem_nil, or_false] at h
  rcases h with rfl | rfl | rfl | rfl <;> exact ⟨by decide, by decide, by decide⟩

theorem skipPrefixes_of_get? {env : Environment} {s : String}
    (h : env.get? skipVariable = some s) : (ofEnvironment env).skipPrefixes = splitItems s := by
  simp [ofEnvironment, h]

theorem isSkipItem_of_mem_skipPrefixes {env : Environment} {p : String}
    (h : p ∈ (ofEnvironment env).skipPrefixes) : IsSkipItem p := by
  cases hv : env.get? skipVariable
  case none =>
    simp only [ofEnvironment, hv] at h
    exact isSkipItem_of_mem_defaultSkipPrefixes h
  case some s =>
    rw [skipPrefixes_of_get? hv] at h
    exact isSkipItem_of_mem_splitItems h

-- The skip-list encoding. Set, the variable gives its trimmed non-blank fields in order; unset, the
-- default list. Every prefix is non-blank, trimmed and free of commas, and such prefixes joined by
-- commas are read back as themselves, so writing back what was read changes nothing. The server
-- hostname is the trimmed value of its variable, or none when that is blank or unset.
theorem skip_list_encoding (env : Environment) :
    (∀ s, env.get? skipVariable = some s →
      ∀ fields : List String, ",".intercalate fields = s → (∀ f ∈ fields, ',' ∉ f.toList) →
        (ofEnvironment env).skipPrefixes = (fields.map Text.trim).filter (!·.isEmpty)) ∧
    (env.get? skipVariable = none →
      (ofEnvironment env).skipPrefixes = ["tap", "vmnet", "vnic", "virtualbox"]) ∧
    (∀ p ∈ (ofEnvironment env).skipPrefixes, p ≠ "" ∧ Text.trim p = p ∧ ',' ∉ p.toList) ∧
    (∀ xs : List String, (∀ x ∈ xs, x ≠ "" ∧ Text.trim x = x ∧ ',' ∉ x.toList) →
      (ofEnvironment (env.set skipVariable (some (",".intercalate xs)))).skipPrefixes = xs) ∧
    (ofEnvironment (env.set skipVariable
        (some (",".intercalate (ofEnvironment env).skipPrefixes)))).skipPrefixes =
      (ofEnvironment env).skipPrefixes ∧
    (∀ v, env.get? hostnameVariable = some v →
      (ofEnvironment env).serverHostname = if Text.trim v = "" then none else some (Text.trim v)) ∧
    (env.get? hostnameVariable = none → (ofEnvironment env).serverHostname = none) := by
  have hread : ∀ xs : List String, (∀ x ∈ xs, IsSkipItem x) →
      (ofEnvironment (env.set skipVariable (some (",".intercalate xs)))).skipPrefixes = xs :=
    fun xs hxs => by
      rw [skipPrefixes_of_get? (Environment.get?_set_self _ _ _), splitItems_intercalate hxs]
  refine ⟨fun s hs fields hfields hcommas => ?fields, fun hv => ?unset,
    fun p hp => isSkipItem_of_mem_skipPrefixes hp, hread,
    hread _ fun p hp => isSkipItem_of_mem_skipPrefixes hp, fun v hv => ?hostname, fun hv => ?none⟩
  case fields => rw [skipPrefixes_of_get? hs, splitItems_eq_of_intercalate hfields hcommas]
  case unset => simp [ofEnvironment, hv, defaultSkipPrefixes]
  case hostname =>
    -- the variable counts as set exactly when its trimmed value is not empty
    by_cases hblank : Text.trim v = ""
    case pos =>
      have hset : env.isSet hostnameVariable = false := by
        simp [Environment.isSet, hv, (Text.trim_eq_empty_iff v).mp hblank]
      simp [ofEnvironment, hset, hblank]
    case neg =>
      have hset : env.isSet hostnameVariable = true := by
        simpa [Environment.isSet, hv, Text.trim_eq_empty_iff] using hblank
      simp [ofEnvironment, hset, hblank, hv]
  case none =>
    have hset : env.isSet hostnameVariable = false := by simp [Environment.isSet, hv]
    simp [ofEnvironment, hset]

end Settings

end InterfaceDiscovery
