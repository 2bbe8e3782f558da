import CodecGen.Emit.Struct
import Mathlib.Data.Finset.Card

/-!
# Which fields of a struct are converted

`convertible` says without reference to the passes which fields a direction converts: the named
fields that are not hidden from it and whose type has an entry. `firstPerKey` keeps the first of
them for each key, as many as there are keys (`length_firstPerKey`).
-/

namespace CodecGen

/-! ## The fields themselves -/

/-- A named field as it is converted; none where its type has no signature or no entry. -/
def FieldMember.of? (s : Setting) (name : String) (field : Field) : Option FieldMember :=
  let policy := s.rules.policy field.tag
  match Signature.ofField field.type with
  | .error _ => none
  | .ok signature =>
    (signature.resolve? s.table).map fun r => ⟨name, policy.keyFor name, policy, r⟩

/-- A field with a signature is converted if the signature has an entry. -/
theorem FieldMember.of?_of_signature {s : Setting} {name : String} {field : Field}
    {signature : Signature} (h : Signature.ofField field.type = .ok signature) :
    FieldMember.of? s name field = (signature.resolve? s.table).map fun r =>
      ⟨name, (s.rules.policy field.tag).keyFor name, s.rules.policy field.tag, r⟩ := by
  unfold FieldMember.of?
  rw [h]

/-- A field is converted by what its name, its tag and its type give. -/
theorem FieldMember.of?_eq_some {s : Setting} {name : String} {field : Field} {m : FieldMember}
    (h : FieldMember.of? s name field = some m) : ∃ r : Resolved,
      m = ⟨name, (s.rules.policy field.tag).keyFor name, s.rules.policy field.tag, r⟩ := by
  cases hsig : Signature.ofField field.type with
  | error e =>
    unfold FieldMember.of? at h
    rw [hsig] at h
    cases h
  | ok signature =>
    rw [FieldMember.of?_of_signature hsig] at h
    obtain ⟨r, _, rfl⟩ := Option.map_eq_some_iff.mp h
    exact ⟨r, rfl⟩

/-- A member is converted under the key of its field. -/
theorem FieldMember.key_of?_eq {s : Setting} {name : String} {field : Field} {m : FieldMember}
    (h : FieldMember.of? s name field = some m) :
    m.key = (s.rules.policy field.tag).keyFor name := by
  obtain ⟨r, rfl⟩ := of?_eq_some h
  rfl

/-- The named fields that are visited are the names of the fields. -/
theorem named_mem_fieldVisits {fields : List Field} {name : String} {field : Field} :
    .named name field ∈ fieldVisits fields ↔ field ∈ fields ∧ name ∈ field.names := by
  constructor
  · intro h
    obtain ⟨field', hfield, hvisit⟩ := List.mem_flatMap.mp h
    split at hvisit
    · simp at hvisit
    · obtain ⟨name', hname, heq⟩ := List.mem_map.mp hvisit
      cases heq
      exact ⟨hfield, hname⟩
  · rintro ⟨hfield, hname⟩
    -- a field with a name does not embed its type
    have hnamed : ¬field.isEmbedded = true := by
      unfold FieldOf.isEmbedded
      rw [List.isEmpty_iff]
      rintro hnil
      rw [hnil] at hname
      exact absurd hname List.not_mem_nil
    refine List.mem_flatMap.mpr ⟨field, hfield, ?_⟩
    rw [if_neg hnamed]
    exact List.mem_map_of_mem hname

/-- What a visited field contributes to a direction: nothing where it is embedded, hidden from the
direction or not supported. -/
def FieldVisit.member? (s : Setting) (d : Direction) : FieldVisit → Option FieldMember
  | .embedded _ => none
  | .named name field =>
    if (s.rules.policy field.tag).hides d then none else FieldMember.of? s name field

/-- A field that is hidden from a direction is no member in it. -/
theorem FieldVisit.member?_of_hides {s : Setting} {d : Direction} {field : Field}
    (h : (s.rules.policy field.tag).hides d = true) (name : String) :
    (FieldVisit.named name field).member? s d = none :=
  if_pos h

/-- A field that is not hidden from a direction is the member that it is converted as. -/
theorem FieldVisit.member?_of_not_hides {s : Setting} {d : Direction} {field : Field}
    (h : ¬(s.rules.policy field.tag).hides d = true) (name : String) :
    (FieldVisit.named name field).member? s d = FieldMember.of? s name field :=
  if_neg h

/-- The members that visits to fields contribute to a direction, in order. -/
def visitedMembers (s : Setting) (d : Direction) (visits : List FieldVisit) : List FieldMember :=
  visits.filterMap (FieldVisit.member? s d)

/-- The fields of a struct that can be converted in a direction, in declaration order. -/
def convertible (s : Setting) (d : Direction) (fields : List Field) : List FieldMember :=
  visitedMembers s d (fieldVisits fields)

/-- A member is converted if and only if one of the names of a field that is not hidden from the
direction gives it. -/
theorem mem_convertible {s : Setting} {d : Direction} {fields : List Field} {m : FieldMember} :
    m ∈ convertible s d fields ↔ ∃ field ∈ fields, ∃ name ∈ field.names,
      ¬(s.rules.policy field.tag).hides d = true ∧ FieldMember.of? s name field = some m := by
  constructor
  · intro h
    obtain ⟨visit, hvisit, hm⟩ := List.mem_filterMap.mp h
    cases visit with
    | embedded type => cases hm
    | named name field =>
      obtain ⟨hfield, hname⟩ := named_mem_fieldVisits.mp hvisit
      by_cases hhide : (s.rules.policy field.tag).hides d = true
      · rw [FieldVisit.member?_of_hides hhide] at hm
        cases hm
      · rw [FieldVisit.member?_of_not_hides hhide] at hm
        exact ⟨field, hfield, name, hname, hhide, hm⟩
  · rintro ⟨field, hfield, name, hname, hshown, hm⟩
    exact List.mem_filterMap.mpr ⟨.named name field, named_mem_fieldVisits.mpr ⟨hfield, hname⟩,
      (FieldVisit.member?_of_not_hides hshown name).trans hm⟩

/-- A visit without a member adds none. -/
theorem visitedMembers_cons_none {s : Setting} {d : Direction} {visit : FieldVisit}
    (h : visit.member? s d = none) (visits : List FieldVisit) :
    visitedMembers s d (visit :: visits) = visitedMembers s d visits :=
  List.filterMap_cons_none h

/-- A visit with a member adds it before those of the other visits. -/
theorem visitedMembers_cons_some {s : Setting} {d : Direction} {visit : FieldVisit}
    {m : FieldMember} (h : visit.member? s d = some m) (visits : List FieldVisit) :
    visitedMembers s d (visit :: visits) = m :: visitedMembers s d visits :=
  List.filterMap_cons_some h

/-- The first member for each key that is not taken yet. -/
def firstPerKey (taken : List String) : List FieldMember → List FieldMember
  | [] => []
  | m :: ms =>
    if m.key ∈ taken then firstPerKey taken ms else m :: firstPerKey (m.key :: taken) ms

/-! ## First members -/

/-- Members are left out, but not moved or added. -/
theorem firstPerKey_sublist (taken : List String) (ms : List FieldMember) :
    (firstPerKey taken ms).Sublist ms := by
  induction ms generalizing taken with
  | nil => exact List.Sublist.refl _
  | cons m ms ih =>
    rw [firstPerKey]
    split
    · exact (ih taken).cons m
    · exact (ih (m.key :: taken)).cons_cons m

/-- No member is kept for a key that is taken. -/
theorem key_notMem_of_mem_firstPerKey {taken : List String} {ms : List FieldMember}
    {m : FieldMember} (h : m ∈ firstPerKey taken ms) : m.key ∉ taken := by
  induction ms generalizing taken with
  | nil => cases h
  | cons m' ms ih =>
    rw [firstPerKey] at h
    split at h
    · exact ih h
    · rename_i hm'
      rcases List.mem_cons.mp h with rfl | h
      · exact hm'
      · exact fun hmem => ih h (List.mem_cons_of_mem _ hmem)

/-- No two of the first members have the same key. -/
theorem nodup_firstPerKey (taken : List String) (ms : List FieldMember) :
    ((firstPerKey taken ms).map FieldMember.key).Nodup := by
  induction ms generalizing taken with
  | nil => exact List.nodup_nil
  | cons m ms ih =>
    rw [firstPerKey]
    split
    · exact ih taken
    · rw [List.map_cons, List.nodup_cons]
      refine ⟨?_, ih (m.key :: taken)⟩
      intro hmem
      obtain ⟨m', hm', hkey⟩ := List.mem_map.mp hmem
      exact key_notMem_of_mem_firstPerKey hm' (hkey ▸ List.mem_cons_self)

/-- Every key that is not taken keeps a member. -/
theorem key_mem_firstPerKey {taken : List String} {ms : List FieldMember} {m : FieldMember}
    (hm : m ∈ ms) (hfree : m.key ∉ taken) :
    m.key ∈ (firstPerKey taken ms).map FieldMember.key := by
  induction ms generalizing taken with
  | nil => cases hm
  | cons m' ms ih =>
    rw [firstPerKey]
    rcases List.mem_cons.mp hm with rfl | hm
    · rw [if_neg hfree, List.map_cons]
      exact List.mem_cons_self
    · split
      · exact ih hm hfree
      -- the first member stands for its key, and leaves every other key free
      · by_cases hsame : m.key = m'.key
        · rw [hsame, List.map_cons]
          exact List.mem_cons_self
        · rw [List.map_cons]
          refine List.mem_cons_of_mem _ (ih hm ?_)
          intro hmem
          rcases List.mem_cons.mp hmem with hkey | hmem
          · exact hsame hkey
          · exact hfree hmem

/-- A member that is kept is the first one with its key. -/
theorem find?_of_mem_firstPerKey {taken : List String} {ms : List FieldMember} {m : FieldMember}
    (h : m ∈ firstPerKey taken ms) : ms.find? (fun m' => m'.key = m.key) = some m := by
  induction ms generalizing taken with
  | nil => cases h
  | cons m' ms ih =>
    -- whether the first member is kept or not, its key is taken for what comes after it
    have hskip : ∀ {ks}, m'.key ∈ ks → m ∈ firstPerKey ks ms →
        (m' :: ms).find? (fun m'' => m''.key = m.key) = some m := by
      intro ks hks hmem
      have hne : m'.key ≠ m.key := fun hkey =>
        key_notMem_of_mem_firstPerKey hmem (hkey ▸ hks)
      rw [List.find?_cons_of_neg (by simpa using hne)]
      exact ih hmem
    rw [firstPerKey] at h
    split at h
    · rename_i htaken
      exact hskip htaken h
    · rcases List.mem_cons.mp h with rfl | h
      · exact List.find?_cons_of_pos (by simp)
      · exact hskip List.mem_cons_self h

/-- As many members are kept as there are keys. -/
theorem length_firstPerKey (ms : List FieldMember) :
    (firstPerKey [] ms).length = (ms.map FieldMember.key).toFinset.card := by
  have hkeys : ((firstPerKey [] ms).map FieldMember.key).toFinset =
      (ms.map FieldMember.key).toFinset := by
    ext key
    simp only [List.mem_toFinset]
    constructor
    · intro hmem
      exact ((firstPerKey_sublist [] ms).map FieldMember.key).subset hmem
    · intro hmem
      obtain ⟨m, hm, rfl⟩ := List.mem_map.mp hmem
      exact key_mem_firstPerKey hm List.not_mem_nil
  -- no key is kept twice, so that the keys that are kept are as many as their set has
  rw [← hkeys, List.toFinset_card_of_nodup (nodup_firstPerKey [] ms), List.length_map]

end CodecGen
