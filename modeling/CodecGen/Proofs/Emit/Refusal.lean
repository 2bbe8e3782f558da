import CodecGen.Proofs.Emit.Members
import CodecGen.Proofs.Emit.Verbatim
import CodecGen.Proofs.Entry.Signature

/-!
# Which declarations are refused

A type expression without signature makes the whole declaration fail, but only where it is met: a
pass over the fields of a struct never looks at the type of a field that it leaves out.
`FirstStop` says at which field a pass gives up, from the tags and types of the fields alone, and
`emit_refuses` says which declarations fail and with which error.
-/

namespace CodecGen

open Drive

/-! ## Fields at which a pass gives up -/

/-- The keys that are decoded among some visits to fields. -/
def decodedKeys (s : Setting) (visits : List FieldVisit) : List String :=
  (firstPerKey [] (visitedMembers s .unmarshal visits)).map FieldMember.key

namespace FieldVisit

/-- The type of the visited field. -/
def type : FieldVisit → GoType
  | embedded type => type
  | named _ field => field.type

/-- The error for a field whose type has no signature. -/
def fault (v : FieldVisit) : GenError :=
  .unknownType v.type.memberFault.shape

/-- A pass gives up at a field, after some visits: the field is named, nothing that a field may be,
not hidden from the direction, and, for decoding, its key is not decoded yet. -/
def Stops (s : Setting) (d : Direction) (before : List FieldVisit) : FieldVisit → Prop
  | embedded _ => False
  | named name field => ¬field.type.IsMember ∧ (s.rules.policy field.tag).hides d = false ∧
      (d = .unmarshal → (s.rules.policy field.tag).keyFor name ∉ decodedKeys s before)

variable {s : Setting} {d : Direction} {before : List FieldVisit} {name : String} {field : Field}

/-- No pass gives up at a field that is hidden from its direction. -/
theorem not_stops_of_hides (h : (s.rules.policy field.tag).hides d = true) :
    ¬(named name field).Stops s d before := by
  rintro ⟨-, hshown, -⟩
  rw [h] at hshown
  cases hshown

/-- No pass gives up at what a field may be. -/
theorem not_stops_of_isMember (h : field.type.IsMember) :
    ¬(named name field).Stops s d before :=
  fun hstop => hstop.1 h

/-- The decoding pass does not give up at a field whose key is decoded. -/
theorem not_stops_of_mem_decodedKeys
    (h : (s.rules.policy field.tag).keyFor name ∈ decodedKeys s before) :
    ¬(named name field).Stops s .unmarshal before :=
  fun hstop => hstop.2.2 rfl h

end FieldVisit

/-- A pass that has made some visits gives up at a field that is still ahead, and at none before
it. -/
def FirstStop (s : Setting) (d : Direction) (before ahead : List FieldVisit) (v : FieldVisit) :
    Prop :=
  ∃ mid after, ahead = mid ++ v :: after ∧ v.Stops s d (before ++ mid) ∧
    ∀ mid' u after', mid = mid' ++ u :: after' → ¬u.Stops s d (before ++ mid')

section

variable {s : Setting} {d : Direction} {before ahead : List FieldVisit} {u v : FieldVisit}

/-- A pass gives up at the next field or later on. -/
theorem firstStop_cons : FirstStop s d before (u :: ahead) v ↔
    (u.Stops s d before ∧ v = u) ∨
      (¬u.Stops s d before ∧ FirstStop s d (before ++ [u]) ahead v) := by
  constructor
  · rintro ⟨mid, after, heq, hstop, hfirst⟩
    cases mid with
    | nil =>
      obtain ⟨rfl, rfl⟩ := List.cons.inj heq
      rw [List.append_nil] at hstop
      exact .inl ⟨hstop, rfl⟩
    | cons w mid =>
      obtain ⟨rfl, rfl⟩ := List.cons.inj heq
      have hhead := hfirst [] u mid rfl
      rw [List.append_nil] at hhead
      refine .inr ⟨hhead, mid, after, rfl, ?_, ?_⟩
      · rwa [List.append_assoc]
      · intro mid' w after' hmid
        rw [List.append_assoc]
        exact hfirst (u :: mid') w after' (congrArg (u :: ·) hmid)
  · rintro (⟨hstop, rfl⟩ | ⟨hhead, mid, after, rfl, hstop, hfirst⟩)
    · refine ⟨[], ahead, rfl, by rwa [List.append_nil], ?_⟩
      intro mid' w after' hmid
      simp at hmid
    · refine ⟨u :: mid, after, rfl, by rwa [List.append_assoc] at hstop, ?_⟩
      intro mid' w after' hmid
      cases mid' with
      | nil =>
        obtain ⟨rfl, -⟩ := List.cons.inj hmid
        rwa [List.append_nil]
      | cons w' mid' =>
        obtain ⟨rfl, htail⟩ := List.cons.inj hmid
        have hlater := hfirst mid' w after' htail
        rwa [List.append_assoc] at hlater

/-- A field at which a pass does not give up is one visit more before the first at which it does. -/
theorem firstStop_cons_of_not_stops (h : ¬u.Stops s d before) :
    FirstStop s d before (u :: ahead) v ↔ FirstStop s d (before ++ [u]) ahead v := by
  rw [firstStop_cons]
  exact ⟨fun hv => hv.elim (fun hstop => absurd hstop.1 h) And.right, fun hv => .inr ⟨h, hv⟩⟩

/-- A field at which a pass gives up is the first if it is next. -/
theorem firstStop_cons_of_stops (h : u.Stops s d before) :
    FirstStop s d before (u :: ahead) v ↔ v = u := by
  rw [firstStop_cons]
  exact ⟨fun hv => hv.elim And.right fun hlater => absurd h hlater.1, fun hv => .inl ⟨h, hv⟩⟩

/-- Where no field is ahead, a pass gives up at none. -/
theorem not_firstStop_nil : ¬FirstStop s d before [] v := by
  rintro ⟨mid, after, heq, -⟩
  simp at heq

/-- If a pass gives up at any field, there is a first one. -/
theorem exists_firstStop (before mid after : List FieldVisit) (h : v.Stops s d (before ++ mid)) :
    ∃ w, FirstStop s d before (mid ++ v :: after) w := by
  induction mid generalizing before with
  | nil =>
    rw [List.append_nil] at h
    exact ⟨v, firstStop_cons.mpr (.inl ⟨h, rfl⟩)⟩
  | cons u mid ih =>
    by_cases hu : u.Stops s d before
    · exact ⟨u, firstStop_cons.mpr (.inl ⟨hu, rfl⟩)⟩
    · obtain ⟨w, hw⟩ := ih (before ++ [u]) (by rwa [List.append_assoc])
      exact ⟨w, firstStop_cons.mpr (.inr ⟨hu, hw⟩)⟩

/-- A key is decoded if a field with this key can be decoded. -/
theorem mem_decodedKeys {visits : List FieldVisit} {key : String} :
    key ∈ decodedKeys s visits ↔ ∃ m ∈ visitedMembers s .unmarshal visits, m.key = key := by
  constructor
  · intro h
    obtain ⟨m, hm, hkey⟩ := List.mem_map.mp h
    exact ⟨m, (firstPerKey_sublist [] _).subset hm, hkey⟩
  · rintro ⟨m, hm, rfl⟩
    exact key_mem_firstPerKey hm List.not_mem_nil

/-- A visit to a field that cannot be decoded adds no key. -/
theorem mem_decodedKeys_concat_none (h : v.member? s .unmarshal = none) {key : String} :
    key ∈ decodedKeys s (before ++ [v]) ↔ key ∈ decodedKeys s before := by
  rw [mem_decodedKeys, mem_decodedKeys, visitedMembers, List.filterMap_append,
    List.filterMap_cons_none h, List.filterMap_nil, List.append_nil]
  rfl

/-- A visit to one that can adds its key. -/
theorem mem_decodedKeys_concat_some {m : FieldMember} (h : v.member? s .unmarshal = some m)
    {key : String} :
    key ∈ decodedKeys s (before ++ [v]) ↔ key = m.key ∨ key ∈ decodedKeys s before := by
  rw [mem_decodedKeys, mem_decodedKeys, visitedMembers, List.filterMap_append,
    List.filterMap_cons_some h, List.filterMap_nil]
  constructor
  · rintro ⟨m', hm', rfl⟩
    rcases List.mem_append.mp hm' with hm' | hm'
    · exact .inr ⟨m', hm', rfl⟩
    · exact .inl (congrArg FieldMember.key (List.mem_singleton.mp hm'))
  · rintro (rfl | ⟨m', hm', rfl⟩)
    · exact ⟨m, List.mem_append_right _ List.mem_cons_self, rfl⟩
    · exact ⟨m', List.mem_append_left _ hm', rfl⟩

end

/-! ## The passes -/

/-- What is supplied is written. -/
theorem Drive.result_write {f : Fragment} (h : f.IsSupplied) : (write f).result = .ok () :=
  (returns_write (Fragment.render_of_isSupplied h)).1

section

variable (s : Setting) (owner : String) (e : GenError)

/-- The writing of a field fails where its type has no signature. Otherwise it says whether there is
an entry. -/
theorem writeField_result (name : String) (field : Field) (d : Direction) :
    (writeField s owner name field (s.rules.policy field.tag) d).result =
      (Signature.ofField field.type).map fun _ => (FieldMember.of? s name field).isSome := by
  unfold writeField
  rw [result_bind]
  cases hsig : Signature.ofField field.type with
  | error e => rfl
  | ok signature =>
    rw [FieldMember.of?_of_signature hsig]
    show (Drive.leave _ >>= fun _ => _).result = .ok _
    rw [result_bind]
    cases hres : signature.resolve? s.table with
    | none => rfl
    | some r =>
      have hmember : ∀ m : FieldMember, (write (m.conversion owner d)).result = .ok () := fun m =>
        result_write (Fragment.isSupplied_member _ _ _)
      cases d with
      | marshal =>
        show (write _ >>= fun _ => _).result = .ok true
        rw [result_bind_of_ok (hmember _)]
        rfl
      | unmarshal =>
        show (write _ >>= fun _ => write _ >>= fun _ => _).result = .ok true
        rw [result_bind_of_ok (result_write (FieldMember.isSupplied_label _ _)),
          result_bind_of_ok (hmember _)]
        rfl

/-- What is nothing that a field may be is refused with the error for the field. -/
theorem writeField_of_not_isMember {field : Field} (h : ¬field.type.IsMember) (name : String)
    (d : Direction) : (writeField s owner name field (s.rules.policy field.tag) d).result =
      .error (FieldVisit.named name field).fault := by
  rw [writeField_result, Signature.ofField_of_not_isMember h]
  rfl

/-- What a field may be is written if it is a member, and passed over if not. -/
theorem writeField_of_isMember {field : Field} (h : field.type.IsMember) (name : String)
    (d : Direction) : (writeField s owner name field (s.rules.policy field.tag) d).result =
      .ok (FieldMember.of? s name field).isSome := by
  obtain ⟨signature, hsig⟩ := Signature.exists_of_isMember h
  rw [writeField_result, hsig]
  rfl

/-- The encoding pass fails at the first field at which it gives up. -/
theorem encodeFields_error_iff (before ahead : List FieldVisit) :
    (encodeFields s owner ahead).result = .error e ↔
      ∃ v, FirstStop s .marshal before ahead v ∧ e = v.fault := by
  induction ahead generalizing before with
  | nil =>
    constructor
    · intro h
      cases h
    · rintro ⟨v, hv, -⟩
      exact absurd hv not_firstStop_nil
  | cons u ahead ih =>
    -- a field that is passed over leaves the question to the fields after it
    have hpass : ¬u.Stops s .marshal before →
        ((encodeFields s owner ahead).result = .error e ↔
          ∃ v, FirstStop s .marshal before (u :: ahead) v ∧ e = v.fault) := by
      intro hgo
      simp only [firstStop_cons_of_not_stops hgo]
      exact ih _
    cases u with
    | embedded type => exact hpass id
    | named name field =>
      rw [encodeFields, result_bind]
      show (if _ then _ else _ : Drive Nat).result = _ ↔ _
      by_cases hhide : (s.rules.policy field.tag).hideMarshal = true
      · rw [if_pos hhide]
        exact hpass (FieldVisit.not_stops_of_hides hhide)
      · rw [if_neg hhide, result_bind]
        by_cases htype : field.type.IsMember
        · have hgo := hpass (FieldVisit.not_stops_of_isMember htype)
          rw [writeField_of_isMember s owner htype]
          cases (FieldMember.of? s name field).isSome with
          | false => exact hgo
          | true => exact (result_bind_error_iff fun _ => ⟨_, rfl⟩).trans hgo
        · have hstop : (FieldVisit.named name field).Stops s .marshal before :=
            ⟨htype, Bool.eq_false_of_not_eq_true hhide, fun h => by cases h⟩
          simp only [firstStop_cons_of_stops hstop, exists_eq_left]
          rw [writeField_of_not_isMember s owner htype]
          show Except.error _ = Except.error e ↔ _
          rw [Except.error.injEq, eq_comm]

/-- The decoding pass fails at the first field at which it gives up, if the keys that it takes for
decoded are those that are. -/
theorem decodeFields_error_iff {taken : List String} {before : List FieldVisit}
    (htaken : ∀ key, key ∈ taken ↔ key ∈ decodedKeys s before) (ahead : List FieldVisit) :
    (decodeFields s owner taken ahead).result = .error e ↔
      ∃ v, FirstStop s .unmarshal before ahead v ∧ e = v.fault := by
  induction ahead generalizing taken before with
  | nil =>
    constructor
    · intro h
      cases h
    · rintro ⟨v, hv, -⟩
      exact absurd hv not_firstStop_nil
  | cons u ahead ih =>
    -- a field that is passed over without being decoded leaves the keys as they are
    have hpass : ¬u.Stops s .unmarshal before → u.member? s .unmarshal = none →
        ((decodeFields s owner taken ahead).result = .error e ↔
          ∃ v, FirstStop s .unmarshal before (u :: ahead) v ∧ e = v.fault) := by
      intro hgo hnone
      simp only [firstStop_cons_of_not_stops hgo]
      exact ih fun key => (htaken key).trans (mem_decodedKeys_concat_none hnone).symm
    cases u with
    | embedded type => exact hpass id rfl
    | named name field =>
      rw [decodeFields, result_bind]
      show (if _ then _ else _ : Drive Nat).result = _ ↔ _
      by_cases hhide : (s.rules.policy field.tag).hideUnmarshal = true
      · rw [if_pos hhide]
        exact hpass (FieldVisit.not_stops_of_hides hhide)
          (FieldVisit.member?_of_hides (d := .unmarshal) hhide name)
      · have hmember := FieldVisit.member?_of_not_hides (d := .unmarshal) hhide name
        rw [if_neg hhide]
        by_cases hkey : (s.rules.policy field.tag).keyFor name ∈ taken
        · rw [if_pos hkey]
          have hgo := FieldVisit.not_stops_of_mem_decodedKeys ((htaken _).mp hkey)
          cases hm : FieldMember.of? s name field with
          | none => exact hpass hgo (hmember.trans hm)
          | some m =>
            simp only [firstStop_cons_of_not_stops hgo]
            refine ih fun key => ?_
            rw [htaken, mem_decodedKeys_concat_some (hmember.trans hm), FieldMember.key_of?_eq hm]
            constructor
            · exact .inr
            · rintro (rfl | hold)
              · exact (htaken _).mp hkey
              · exact hold
        · rw [if_neg hkey, result_bind]
          by_cases htype : field.type.IsMember
          · have hgo : ¬(FieldVisit.named name field).Stops s .unmarshal before :=
              FieldVisit.not_stops_of_isMember htype
            rw [writeField_of_isMember s owner htype]
            cases hm : FieldMember.of? s name field with
            | none => exact hpass hgo (hmember.trans hm)
            | some m =>
              simp only [firstStop_cons_of_not_stops hgo]
              refine (result_bind_error_iff fun _ => ⟨_, rfl⟩).trans (ih fun key => ?_)
              rw [List.mem_cons, htaken, mem_decodedKeys_concat_some (hmember.trans hm),
                FieldMember.key_of?_eq hm]
          · have hstop : (FieldVisit.named name field).Stops s .unmarshal before :=
              ⟨htype, Bool.eq_false_of_not_eq_true hhide, fun _ hmem =>
                hkey ((htaken _).mpr hmem)⟩
            simp only [firstStop_cons_of_stops hstop, exists_eq_left]
            rw [writeField_of_not_isMember s owner htype]
            show Except.error _ = Except.error e ↔ _
            rw [Except.error.injEq, eq_comm]

end

/-! ## Structs -/

/-- A frame that speaks of a declared type alone is written. -/
theorem result_frame {f : Frame} (hf : f ≠ .header) (h : f.supplied = [.typeName])
    (owner : String) : (frame f owner).result = .ok () :=
  result_write (isSupplied_named hf h owner)

section

variable (s : Setting) (owner : String) (fields : List Field) (e : GenError)

/-- The switch fails where the decoding pass gives up, with the error for the field there. -/
theorem decodeSwitch_error_iff : (decodeSwitch s owner fields).result = .error e ↔
    ∃ v, FirstStop s .unmarshal [] (fieldVisits fields) v ∧ e = v.fault := by
  rw [← decodeFields_error_iff s owner e fun _ => Iff.rfl]
  unfold decodeSwitch
  split
  -- without fields there are no visits, so that neither side fails
  · rename_i hempty
    rw [List.isEmpty_iff.mp hempty]
    rfl
  · rw [result_bind_of_ok (result_frame (by decide) rfl owner)]
    refine result_bind_error_iff fun keys => ⟨keys, ?_⟩
    rw [result_bind_of_ok (result_frame (by decide) rfl owner)]
    rfl

/-- So does the decoding method. -/
theorem decodeStruct_error_iff : (decodeStruct s owner fields).result = .error e ↔
    ∃ v, FirstStop s .unmarshal [] (fieldVisits fields) v ∧ e = v.fault := by
  rw [← decodeSwitch_error_iff s owner]
  unfold decodeStruct
  rw [result_bind_of_ok (result_frame (by decide) rfl owner)]
  refine result_bind_error_iff fun keys => ⟨keys, ?_⟩
  rw [result_bind_of_ok (result_frame (by decide) rfl owner)]
  rfl

/-- The encoding method fails where the encoding pass gives up. -/
theorem encodeStruct_error_iff : (encodeStruct s owner fields).result = .error e ↔
    ∃ v, FirstStop s .marshal [] (fieldVisits fields) v ∧ e = v.fault := by
  rw [← encodeFields_error_iff s owner]
  unfold encodeStruct
  rw [result_bind_of_ok (result_frame (by decide) rfl owner)]
  refine result_bind_error_iff fun keys => ⟨keys, ?_⟩
  rw [result_bind_of_ok (result_frame (by decide) rfl owner)]
  rfl

/-- A struct fails where the decoding pass gives up, or else where the encoding pass does. -/
theorem emitStruct_error_iff : (emitStruct s owner fields).result = .error e ↔
    (∃ v, FirstStop s .unmarshal [] (fieldVisits fields) v ∧ e = v.fault) ∨
      (¬∃ v, FirstStop s .unmarshal [] (fieldVisits fields) v) ∧
        ∃ v, FirstStop s .marshal [] (fieldVisits fields) v ∧ e = v.fault := by
  rw [← encodeStruct_error_iff s owner, ← decodeStruct_error_iff s owner]
  unfold emitStruct
  rw [result_bind]
  cases hdecode : (decodeStruct s owner fields).result with
  | error e' =>
    obtain ⟨v, hv, -⟩ := (decodeStruct_error_iff s owner fields e').mp hdecode
    have hsome : ∃ v, FirstStop s .unmarshal [] (fieldVisits fields) v := ⟨v, hv⟩
    show Except.error e' = Except.error e ↔ _
    simp only [hsome, not_true_eq_false, false_and, or_false, Except.error.injEq]
  | ok keys =>
    have hnone : ¬∃ v, FirstStop s .unmarshal [] (fieldVisits fields) v := by
      rintro ⟨v, hv⟩
      have hfail := (decodeStruct_error_iff s owner fields _).mpr ⟨v, hv, rfl⟩
      rw [hdecode] at hfail
      cases hfail
    show (write _ >>= fun _ => _).result = _ ↔ _
    rw [result_bind_of_ok (result_write (isSupplied_keyCount owner keys))]
    simp only [reduceCtorEq, false_or, hnone, not_false_eq_true, true_and]
    refine result_bind_error_iff fun encoded => ⟨keys, ?_⟩
    rw [result_bind_of_ok (result_frame (by decide) rfl owner)]
    rfl

/-- A struct fails if either pass gives up at some field. -/
theorem exists_emitStruct_error_iff : (∃ e, (emitStruct s owner fields).result = .error e) ↔
    ∃ d before v after, fieldVisits fields = before ++ v :: after ∧ v.Stops s d before := by
  simp only [emitStruct_error_iff]
  constructor
  · rintro ⟨e, ⟨v, ⟨before, after, heq, hstop, -⟩, -⟩ | ⟨-, v, ⟨before, after, heq, hstop, -⟩, -⟩⟩
    · exact ⟨.unmarshal, before, v, after, heq, hstop⟩
    · exact ⟨.marshal, before, v, after, heq, hstop⟩
  · rintro ⟨d, before, v, after, heq, hstop⟩
    obtain ⟨w, hw⟩ := exists_firstStop [] before after hstop
    rw [← heq] at hw
    by_cases hdecode : ∃ v, FirstStop s .unmarshal [] (fieldVisits fields) v
    · obtain ⟨w', hw'⟩ := hdecode
      exact ⟨_, .inl ⟨w', hw', rfl⟩⟩
    · cases d with
      | marshal => exact ⟨_, .inr ⟨hdecode, w, hw, rfl⟩⟩
      | unmarshal => exact absurd ⟨w, hw⟩ hdecode

/-- A pass gives up at named fields only: at one that is nothing that a field may be, is not hidden
from the pass, and has a key of its own where it is decoded. -/
theorem exists_stops_iff : (∃ d before v after, fieldVisits fields = before ++ v :: after ∧
      v.Stops s d before) ↔
    ∃ before name field after, fieldVisits fields = before ++ .named name field :: after ∧
      ¬field.type.IsMember ∧
      ((s.rules.policy field.tag).hideMarshal = false ∨
        (s.rules.policy field.tag).hideUnmarshal = false ∧
          (s.rules.policy field.tag).keyFor name ∉ decodedKeys s before) := by
  constructor
  · rintro ⟨d, before, v, after, heq, hstop⟩
    cases v with
    | embedded type => cases hstop
    | named name field =>
      obtain ⟨htype, hshown, hkey⟩ := hstop
      refine ⟨before, name, field, after, heq, htype, ?_⟩
      cases d with
      | marshal => exact .inl hshown
      | unmarshal => exact .inr ⟨hshown, hkey rfl⟩
  · rintro ⟨before, name, field, after, heq, htype, hshown | ⟨hshown, hkey⟩⟩
    · exact ⟨.marshal, before, _, after, heq, htype, hshown, fun h => by cases h⟩
    · exact ⟨.unmarshal, before, _, after, heq, htype, hshown, fun _ => hkey⟩

/-- No struct fails whose named fields are all what a field may be. -/
theorem exists_emitStruct_ok (h : ∀ f ∈ fields, f.names ≠ [] → f.type.IsMember) :
    ∃ n, (emitStruct s owner fields).result = .ok n := by
  cases hresult : (emitStruct s owner fields).result with
  | ok n => exact ⟨n, rfl⟩
  | error e =>
    obtain ⟨before, name, field, after, heq, htype, -⟩ := (exists_stops_iff s fields).mp
      ((exists_emitStruct_error_iff s owner fields).mp ⟨e, hresult⟩)
    have hmem : .named name field ∈ fieldVisits fields := by
      rw [heq]
      exact List.mem_append_right _ List.mem_cons_self
    obtain ⟨hfield, hname⟩ := named_mem_fieldVisits.mp hmem
    exact absurd (h field hfield (List.ne_nil_of_mem hname)) htype

end

/-! ## Arrays and maps -/

section

variable (s : Setting) (owner : String) (e : GenError)

/-- What ends well where something holds, and with one error elsewhere, fails with this error where
it does not hold. -/
theorem result_error_iff_of_cases {α : Type} {x : Drive α} {P : Prop} {fault : GenError}
    (hok : P → ∃ a, x.result = .ok a) (hfail : ¬P → x.result = .error fault) :
    x.result = .error e ↔ ¬P ∧ e = fault := by
  by_cases hP : P
  · obtain ⟨a, ha⟩ := hok hP
    rw [ha]
    constructor
    · intro h
      cases h
    · rintro ⟨hno, -⟩
      exact absurd hP hno
  · rw [hfail hP, Except.error.injEq, eq_comm]
    exact ⟨fun h => ⟨hP, h⟩, And.right⟩

/-- An array fails by the type of its elements alone. -/
theorem emitArray_error_iff (elem : GoType) : (emitArray s owner elem).result = .error e ↔
    ¬elem.IsElement ∧ e = .unknownType elem.elementFault.shape := by
  refine result_error_iff_of_cases e (fun helem => ?_) fun helem =>
    (emitArray_fails (Signature.ofArrayElement_of_not_isElement helem) s owner).1
  obtain ⟨signature, hsig⟩ := Signature.exists_of_isElement helem
  exact ⟨_, (emitArray_returns (s := s) hsig owner).1⟩

/-- A map fails by the type of its values alone: nothing is asked of its keys. -/
theorem emitMap_error_iff (key value : GoType) : (emitMap s owner key value).result = .error e ↔
    ¬value.IsMember ∧ e = .unknownType value.memberFault.shape := by
  refine result_error_iff_of_cases e (fun hvalue => ?_) fun hvalue =>
    (emitMap_fails (Signature.ofField_of_not_isMember hvalue) s owner key).1
  obtain ⟨signature, hsig⟩ := Signature.exists_of_isMember hvalue
  exact ⟨_, (emitMap_returns (s := s) hsig owner key).1⟩

end

/-! ## All declarations -/

/-- Which declarations fail, and how. A struct fails if and only if one of its named fields is
nothing that a field may be and is not hidden from encoding, or not hidden from decoding with a key
that no field before it is decoded under. The error is for the first such field of the decoding
pass, or else of the encoding pass. An array or a map fails by the type of its elements or values
alone. So embedded fields, tags, names without entry and keys of maps never make a declaration fail.
-/
theorem emit_refuses (s : Setting) (owner : String) :
    (∀ fields : List Field,
      ((∃ e, (emitStruct s owner fields).result = .error e) ↔
        ∃ before name field after, fieldVisits fields = before ++ .named name field :: after ∧
          ¬field.type.IsMember ∧
          ((s.rules.policy field.tag).hideMarshal = false ∨
            (s.rules.policy field.tag).hideUnmarshal = false ∧
              (s.rules.policy field.tag).keyFor name ∉ decodedKeys s before)) ∧
      (∀ e, (emitStruct s owner fields).result = .error e ↔
        (∃ v, FirstStop s .unmarshal [] (fieldVisits fields) v ∧ e = v.fault) ∨
          (¬∃ v, FirstStop s .unmarshal [] (fieldVisits fields) v) ∧
            ∃ v, FirstStop s .marshal [] (fieldVisits fields) v ∧ e = v.fault) ∧
      ((∀ f ∈ fields, f.names ≠ [] → f.type.IsMember) →
        ∃ n, (emitStruct s owner fields).result = .ok n)) ∧
    (∀ (elem : GoType) (e : GenError), (emitArray s owner elem).result = .error e ↔
      ¬elem.IsElement ∧ e = .unknownType elem.elementFault.shape) ∧
    ∀ (key value : GoType) (e : GenError), (emitMap s owner key value).result = .error e ↔
      ¬value.IsMember ∧ e = .unknownType value.memberFault.shape := by
  refine ⟨fun fields => ⟨?_, emitStruct_error_iff s owner fields,
    exists_emitStruct_ok s owner fields⟩, fun elem e => emitArray_error_iff s owner e elem,
    fun key value e => emitMap_error_iff s owner e key value⟩
  exact (exists_emitStruct_error_iff s owner fields).trans (exists_stops_iff s fields)

/-- Fields that never make a struct fail: an embedded slice, a malformed tag, and a name without
entry. -/
def harmlessFields : List Field :=
  [⟨[], .array none (.ident "int"), none⟩,
    ⟨["Id"], .ident "int", some "\x60gojay:\x60"⟩,
    ⟨["Other"], .pointer (.qualified "sql" "Missing"), none⟩]

/-- Fields that make a struct fail. A slice is the first that is nothing that a field may be, but
its key is decoded before, so that the decoding pass gives up at the map. -/
def refusedFields : List Field :=
  [⟨["Id"], .ident "int", some "\x60gojay:\"k\"\x60"⟩,
    ⟨["Taken"], .array none (.ident "int"), some "\x60gojay:\"k\"\x60"⟩,
    ⟨["Open"], .map (.ident "int") (.ident "int"), none⟩]

/-- The first struct is generated, and the second fails at its map. -/
theorem emit_refuses_harmlessFields :
    let s : Setting := ⟨⟨"gojay", "fmt", "time.RFC3339"⟩, .empty⟩
    (∀ f ∈ harmlessFields, f.names ≠ [] → f.type.IsMember) ∧
      (∃ n, (emitStruct s "Person" harmlessFields).result = .ok n) ∧
      (emitStruct s "Person" refusedFields).result = .error (.unknownType "MapType") := by
  intro s
  have hmembers : ∀ f ∈ harmlessFields, f.names ≠ [] → f.type.IsMember := by
    intro f hf hnamed
    simp only [harmlessFields, List.mem_cons, List.not_mem_nil, or_false] at hf
    obtain rfl | rfl | rfl := hf
    · exact absurd rfl hnamed
    · exact .value (.ident "int")
    · exact .pointer (.qualified "sql" "Missing")
  obtain ⟨-, herror, -⟩ := (emit_refuses s "Person").1 refusedFields
  obtain ⟨-, -, hok⟩ := (emit_refuses s "Person").1 harmlessFields
  refine ⟨hmembers, hok hmembers, (herror _).mpr (.inl
    ⟨.named "Open" ⟨["Open"], .map (.ident "int") (.ident "int"), none⟩, ?_, rfl⟩)⟩
  -- the decoding pass goes over the first two fields and gives up at the third
  have hmap : ¬(GoType.map (.ident "int") (.ident "int")).IsMember := by
    rintro (⟨⟨⟩⟩ | ⟨⟨⟩⟩)
  refine (firstStop_cons_of_not_stops
    (FieldVisit.not_stops_of_isMember (.value (.ident "int")))).mpr ?_
  refine (firstStop_cons_of_not_stops
    (FieldVisit.not_stops_of_mem_decodedKeys (by decide +kernel))).mpr ?_
  refine (firstStop_cons_of_stops ?_).mpr rfl
  exact ⟨hmap, rfl, fun _ => by decide +kernel⟩

end CodecGen
