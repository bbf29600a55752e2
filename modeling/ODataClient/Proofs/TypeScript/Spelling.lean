import ODataClient.Proofs.Name.Growth
import ODataClient.Proofs.Text.Capitals
import ODataClient.Proofs.Text.Letters
import ODataClient.TypeScript.Naming

/-!
# Characters of generated names

The names of types do not begin with a small ASCII letter, those of functions not with a capital
one. Within ASCII, the names of types hold nothing but letters, digits and underscores, and those of
constants no small letters. All this is kept by the escaping of reserved words and the numbers put
behind names.
-/

namespace ODataClient.TypeScript

open Unicode

variable {registry : Name.Registry} {low high : Nat} {candidate name : String}

theorem eq_or_numbered_of_mem_variants (member : name ∈ Name.variants candidate) :
    name = candidate ∨ ∃ ordinal ∈ List.range' 1 Name.ordinalLimit,
      name.toList = candidate.toList ++ '_' :: (toString ordinal).toList := by
  rcases List.mem_cons.1 member with rfl | numbered
  · exact .inl rfl
  · obtain ⟨ordinal, isOrdinal, rfl⟩ := List.mem_map.1 numbered
    have spelled : (candidate ++ "_" ++ toString ordinal).toList =
        candidate.toList ++ '_' :: (toString ordinal).toList := by
      rw [String.append_assoc, String.toList_append, String.toList_append]
      rfl
    exact .inr ⟨ordinal, isOrdinal, spelled⟩

theorem beginsOutside_of_mem_variants (underscore : Outside low high '_'.toNat)
    (outside : BeginsOutside low high candidate.toList) (member : name ∈ Name.variants candidate) :
    BeginsOutside low high name.toList := by
  rcases eq_or_numbered_of_mem_variants member with rfl | ⟨ordinal, -, spelled⟩
  · exact outside
  · rw [spelled]
    exact outside.append (beginsOutside_cons.2 underscore)

theorem isNameText_of_mem_variants (isName : IsNameText candidate.toList)
    (member : name ∈ Name.variants candidate) : IsNameText name.toList := by
  have numbered : ∀ ordinal ∈ List.range' 1 Name.ordinalLimit,
      IsNameText ('_' :: (toString ordinal).toList) := by
    decide +kernel
  rcases eq_or_numbered_of_mem_variants member with rfl | ⟨ordinal, isOrdinal, spelled⟩
  · exact isName
  · rw [spelled]
    exact isName.append (numbered ordinal isOrdinal)

theorem hasNoSmall_of_mem_variants (capitals : HasNoSmall candidate.toList)
    (member : name ∈ Name.variants candidate) : HasNoSmall name.toList := by
  have numbered : ∀ ordinal ∈ List.range' 1 Name.ordinalLimit,
      HasNoSmall ('_' :: (toString ordinal).toList) := by
    decide +kernel
  rcases eq_or_numbered_of_mem_variants member with rfl | ⟨ordinal, isOrdinal, spelled⟩
  · exact capitals
  · rw [spelled]
    exact capitals.append (numbered ordinal isOrdinal)

/-- Where reserved words get an underscore, a name is its source in the case of its kind, with or
without one. -/
theorem toList_identifier (source : String) (kind : NameKind)
    (escaped : ∀ word, escapeReserved word kind = "_" ++ word) :
    (naming.identifier source kind).toList = (naming.recase source kind).toList ∨
      (naming.identifier source kind).toList = '_' :: (naming.recase source kind).toList := by
  unfold NamingConvention.identifier NamingConvention.escape
  split
  · have underscore : naming.escapeReserved (naming.recase source kind) kind =
        "_" ++ naming.recase source kind := escaped _
    rw [underscore, String.toList_append]
    exact .inr rfl
  · exact .inl rfl

theorem beginsNotSmall_identifier (source : String) :
    BeginsNotSmall (naming.identifier source .type).toList := by
  rcases toList_identifier source .type fun _ => rfl with plain | escaped
  · rw [plain]
    exact Text.beginsNotSmall_pascalCase source
  · rw [escaped]
    exact beginsOutside_cons.2 (.inl (by decide))

theorem isNameText_identifier (source : String) :
    IsNameText (naming.identifier source .type).toList := by
  rcases toList_identifier source .type fun _ => rfl with plain | escaped
  · rw [plain]
    exact Text.isNameText_pascalCase source
  · have underscore : IsNameText ['_'] := by decide
    rw [escaped]
    exact underscore.append (Text.isNameText_pascalCase source)

theorem hasNoSmall_identifier (source : String) :
    HasNoSmall (naming.identifier source .staticMember).toList := by
  rcases toList_identifier source .staticMember fun _ => rfl with plain | escaped
  · rw [plain]
    exact Text.hasNoSmall_upperSnakeCase source
  · rw [escaped]
    exact List.forall_mem_cons.2 ⟨by decide, Text.hasNoSmall_upperSnakeCase source⟩

theorem beginsNotCapital_identifier (source : String) :
    BeginsNotCapital (naming.identifier source .function).toList := by
  unfold NamingConvention.identifier NamingConvention.escape
  split
  · have letter : naming.escapeReserved (naming.recase source .function) .function =
        "f" ++ Text.pascalCase (Text.camelCase source) := rfl
    rw [letter, String.toList_append]
    exact beginsOutside_cons.2 (.inr (by decide))
  · exact Text.beginsNotCapital_camelCase source

theorem beginsNotSmall_of_lookup {owner key : String} (spelled : registry.convention = naming)
    (conventional : registry.IsConventional)
    (held : registry.lookup { kind := .type, owner, key } = some name) :
    BeginsNotSmall name.toList := by
  obtain ⟨source, member⟩ := conventional _ name held (by simp)
  rw [spelled] at member
  exact beginsOutside_of_mem_variants (.inl (by decide)) (beginsNotSmall_identifier source) member

theorem isNameText_of_lookup {owner key : String} (spelled : registry.convention = naming)
    (conventional : registry.IsConventional)
    (held : registry.lookup { kind := .type, owner, key } = some name) :
    IsNameText name.toList := by
  obtain ⟨source, member⟩ := conventional _ name held (by simp)
  rw [spelled] at member
  exact isNameText_of_mem_variants (isNameText_identifier source) member

theorem beginsNotCapital_of_lookup {owner key : String} (spelled : registry.convention = naming)
    (conventional : registry.IsConventional)
    (held : registry.lookup { kind := .function, owner, key } = some name) :
    BeginsNotCapital name.toList := by
  obtain ⟨source, member⟩ := conventional _ name held (by simp)
  rw [spelled] at member
  exact beginsOutside_of_mem_variants (.inr (by decide)) (beginsNotCapital_identifier source)
    member

theorem hasNoSmall_of_lookup {owner key : String} (spelled : registry.convention = naming)
    (conventional : registry.IsConventional)
    (held : registry.lookup { kind := .staticMember, owner, key } = some name) :
    HasNoSmall name.toList := by
  obtain ⟨source, member⟩ := conventional _ name held (by simp)
  rw [spelled] at member
  exact hasNoSmall_of_mem_variants (hasNoSmall_identifier source) member

end ODataClient.TypeScript
