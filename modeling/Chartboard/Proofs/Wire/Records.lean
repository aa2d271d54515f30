import Chartboard.Proofs.Json.Decoding
import Chartboard.Wire.Chart

/-!
# Records read back

A record is read back from its members if each of its fields, in the order of declaration, either
reads its own member, or is left out and may be. Which fields an object has is not said by their
order alone, so the names of the fields have to differ.
-/

namespace Chartboard

namespace Json

variable {σ α : Type}

/-! ## Members that may be absent -/

namespace Value

/-- Natural numbers are written as integers. -/
theorem written_naturals (o : Option Nat) :
    (o.map fun n => Value.int n) = o.map fun n : Nat => Value.int n := by
  cases o with
  | none => rfl
  | some n => rfl

/-- An optional member without numbers adds none. -/
theorem membersNumbers_optionalMember {write : α → Value} (h : ∀ a, (write a).numbers = [])
    (name : String) (o : Option α) : membersNumbers (optionalMember name (o.map write)) = [] := by
  cases o with
  | none => rfl
  | some a => exact (List.append_nil _).trans (h a)

/-- An optional member that is not nested adds no depth. -/
theorem membersDepth_optionalMember {write : α → Value} (h : ∀ a, (write a).depth = 0)
    (name : String) (o : Option α) : membersDepth (optionalMember name (o.map write)) = 0 := by
  cases o with
  | none => rfl
  | some a => exact (Nat.max_zero _).trans (h a)

/-- An optional count adds itself to the numbers. -/
theorem membersNumbers_naturals (name : String) (o : Option Nat) :
    membersNumbers (optionalMember name (o.map fun n : Nat => Value.int n)) =
      (o.map fun n : Nat => Number.int n).toList := by
  cases o with
  | _ => rfl

end Value

namespace Number

/-- A natural number of 64 bits stays an integer. -/
theorem inRange_natCast {n : Nat} (h : n < 0x10000000000000000) : inRange n := by
  rw [inRange, Bool.and_eq_true, decide_eq_true_eq, decide_eq_true_eq]
  omega

/-- A count of 64 bits is in the range of what is read. -/
theorem inRange_of_mem_naturals {o : Option Nat} {i : Int}
    (h : ∀ n, o = some n → n < 0x10000000000000000)
    (hi : .int i ∈ (o.map fun n : Nat => Number.int n).toList) : inRange i := by
  rw [Option.mem_toList, Option.map_eq_some_iff] at hi
  obtain ⟨n, hn, hint⟩ := hi
  rw [← Number.int.inj hint]
  exact inRange_natCast (h n hn)

end Number

/-! ## Fields -/

/-- Members fill a record field by field, in the order of declaration: each field reads its own
member, or it is left out and may be. -/
inductive Fills : List (Field σ) → List (String × Value) → σ → σ → Prop
  /-- No field is left. -/
  | done (r : σ) : Fills [] [] r r
  /-- The field reads its member. -/
  | read {field : Field σ} {fields : List (Field σ)} {v : Value} {members : List (String × Value)}
    {r next last : σ} (reads : field.read .text (Tree.ofValue v) r = .ok next)
    (rest : Fills fields members next last) :
    Fills (field :: fields) ((field.name, v) :: members) r last
  /-- The field is left out. -/
  | lacking {field : Field σ} {fields : List (Field σ)} {members : List (String × Value)}
    {r last : σ} (mayLack : field.mayLack = true) (rest : Fills fields members r last) :
    Fills (field :: fields) members r last

namespace Fills

variable {fields all : List (Field σ)} {members : List (String × Value)} {r last : σ}
  {name : String} {decoder : Decoder α} {v : Value} {a : α}

/-- A value that is read back is written into the record. -/
theorem set_of_reads (set : α → σ → σ) (h : decoder.Reads v a) (r : σ) :
    (do pure (set (← decoder .text (Tree.ofValue v)) r) : Except DecodeError σ) =
      .ok (set a r) := by
  rw [h]
  rfl

/-- A member that a required field reads back fills that field. -/
theorem required {set : α → σ → σ} (h : decoder.Reads v a)
    (rest : Fills fields members (set a r) last) :
    Fills (.required name decoder set :: fields) ((name, v) :: members) r last :=
  have hread : (Field.required name decoder set).read .text (Tree.ofValue v) r =
      .ok (set a r) := set_of_reads set h r
  .read hread rest

/-- A member that a field with a default reads back fills that field. -/
theorem defaulted {set : α → σ → σ} (h : decoder.Reads v a)
    (rest : Fills fields members (set a r) last) :
    Fills (.defaulted name decoder set :: fields) ((name, v) :: members) r last :=
  have hread : (Field.defaulted name decoder set).read .text (Tree.ofValue v) r =
      .ok (set a r) := set_of_reads set h r
  .read hread rest

/-- A field that may be absent has a member if it is there, and none if it is not. -/
theorem optional {set : Option α → σ → σ} {mayEnd : Bool} {write : α → Value} {o : Option α}
    (h : ∀ a, o = some a → decoder.Reads (write a) a ∧ write a ≠ .null) (hnone : set none r = r)
    (rest : Fills fields members (set o r) last) :
    Fills (.optional name decoder set mayEnd :: fields)
      (Value.optionalMember name (o.map write) ++ members) r last := by
  cases o with
  | none =>
    rw [hnone] at rest
    exact .lacking rfl rest
  | some a =>
    obtain ⟨hreads, hnull⟩ := h a rfl
    have hread : (Field.optional name decoder set mayEnd).read .text (Tree.ofValue (write a)) r =
        .ok (set (some a) r) :=
      set_of_reads set (Decoder.reads_optional hreads hnull) r
    exact .read hread rest

/-! ## Records -/

/-- A field is found by its name if no other has it. -/
theorem find?_name {field : Field σ} (hnodup : (all.map (·.name)).Nodup) (h : field ∈ all) :
    all.find? (·.name == field.name) = some field := by
  induction all with
  | nil => cases h
  | cons first others ih =>
    rw [List.map_cons, List.nodup_cons] at hnodup
    by_cases hname : first.name = field.name
    · rcases List.mem_cons.1 h with rfl | h
      · rw [List.find?_cons_of_pos (by simp)]
      · rw [hname] at hnodup
        exact absurd (List.mem_map_of_mem h) hnodup.1
    · rw [List.find?_cons_of_neg (by simpa using hname)]
      refine ih hnodup.2 ((List.mem_cons.1 h).resolve_left ?_)
      rintro rfl
      exact hname rfl

/-- Members that fill the fields that are left are read, and every field that may not be lacking has
been read then. -/
theorem members_eq (hnodup : (all.map (·.name)).Nodup) (hsub : fields.Sublist all)
    (h : Fills fields members r last) {seen : List String}
    (hseen : ∀ field ∈ fields, field.name ∉ seen) :
    ∃ names, Decoder.members all .text (Tree.ofMembers members) seen r = .ok (names, last) ∧
      seen ⊆ names ∧ ∀ field ∈ fields, field.mayLack = false → field.name ∈ names := by
  induction h generalizing seen with
  | done r => exact ⟨seen, rfl, List.Subset.refl seen, fun _ hfield => by cases hfield⟩
  | @read field fields v members r next last reads rest ih =>
    have hfield : field ∈ all := hsub.subset List.mem_cons_self
    have hnames : ((field :: fields).map (·.name)).Nodup := (hsub.map _).nodup hnodup
    rw [List.map_cons, List.nodup_cons] at hnames
    have hlater : ∀ other ∈ fields, other.name ∉ field.name :: seen := by
      intro other hother hmem
      rcases List.mem_cons.1 hmem with heq | hmem
      · exact hnames.1 (heq ▸ List.mem_map_of_mem hother)
      · exact hseen other (List.mem_cons_of_mem _ hother) hmem
    obtain ⟨names, hread, hsubset, hthere⟩ :=
      ih ((List.sublist_cons_self _ _).trans hsub) hlater
    have hnew : seen.contains field.name = false := by
      simpa using hseen field List.mem_cons_self
    refine ⟨names, ?_, fun name hname => hsubset (List.mem_cons_of_mem _ hname),
      fun other hother hlack => ?_⟩
    · rw [Tree.ofMembers, Decoder.members, find?_name hnodup hfield]
      dsimp only
      rw [hnew, reads]
      exact hread
    · rcases List.mem_cons.1 hother with rfl | hother
      · exact hsubset List.mem_cons_self
      · exact hthere other hother hlack
  | @lacking field fields members r last mayLack rest ih =>
    obtain ⟨names, hread, hsubset, hthere⟩ := ih ((List.sublist_cons_self _ _).trans hsub)
      fun other hother => hseen other (List.mem_cons_of_mem _ hother)
    refine ⟨names, hread, hsubset, fun other hother hlack => ?_⟩
    rcases List.mem_cons.1 hother with rfl | hother
    · rw [mayLack] at hlack
      cases hlack
    · exact hthere other hother hlack

/-- A record is read from an object whose members fill it. -/
theorem reads_record (name : String) (hnodup : (fields.map (·.name)).Nodup)
    (h : Fills fields members r last) :
    (Decoder.record name fields r).Reads (.object members) last := by
  obtain ⟨names, hread, -, hthere⟩ :=
    h.members_eq hnodup (List.Sublist.refl fields) fun _ _ => List.not_mem_nil
  have hmissing : Decoder.firstMissing? fields names = none := by
    rw [Decoder.firstMissing?, Option.map_eq_none_iff, List.find?_eq_none]
    intro field hfield hlacks
    rw [Bool.and_eq_true, Bool.not_eq_true', Bool.not_eq_true'] at hlacks
    have hmem := hthere field hfield hlacks.1
    simp [hmem] at hlacks
  unfold Decoder.Reads Decoder.record
  rw [Tree.ofValue]
  dsimp only
  rw [hread]
  refine Outcome.bind_eq_ok.2 ⟨(names, last), rfl, Outcome.bind_eq_ok.2 ⟨(), rfl, ?_⟩⟩
  rw [hmissing]
  rfl

end Fills

end Json

end Chartboard
