import ProtectedBoot.Proofs.Segment.Loadable

/-!
# What the check of a table decides

The check runs every selector of the boot code through the processor's rules: bounds of the table, bits
of the access byte, and comparisons between three privilege levels. The selectors are fixed, and so is
the level that each is loaded at, so little is left of the rules: a segment of the kernel is of ring 0,
one of users of ring 3, and user code may be of any ring if it is conforming
(`loadsAsCode_kernel_iff`, `loadsAsCode_user_iff`, `loadsAsData_iff`).

The answer of the check is thereby a matter of seven bits of each descriptor but the first
(`GlobalTable.checkAccess_decides`). The processor writes one bit of a descriptor, when it is first used,
and that is not one of the seven.
-/

namespace ProtectedBoot

/-! ## Descriptors -/

namespace Descriptor

variable {d e : Descriptor}

theorem level_lt (d : Descriptor) : d.level < 4 := BitVec.isLt _

theorem loadsAsCode_iff {running : Nat} :
    d.LoadsAsCode running ↔
      d.IsCode ∧ (d.level = running ∨ d.bits.getLsbD 42 = true ∧ d.level ≤ running) :=
  ⟨fun h => ⟨⟨h.present, h.ordinary, h.executable⟩, h.entered⟩,
    fun ⟨h, entered⟩ => ⟨h.present, h.ordinary, h.executable, entered⟩⟩

/-- Nothing is more privileged than ring 0, so it is entered from itself alone. -/
theorem loadsAsCode_kernel_iff : d.LoadsAsCode 0 ↔ d.IsCode ∧ d.level = 0 := by
  rw [loadsAsCode_iff]
  refine and_congr_right fun _ => ⟨?_, .inl⟩
  rintro (same | ⟨-, le⟩)
  · exact same
  · exact Nat.le_zero.1 le

/-- Nothing is less privileged than ring 3, so conforming code is entered from there at any level. -/
theorem loadsAsCode_user_iff :
    d.LoadsAsCode 3 ↔ d.IsCode ∧ (d.bits.getLsbD 42 = true ∨ d.level = 3) := by
  rw [loadsAsCode_iff]
  refine and_congr_right fun _ => ⟨?_, ?_⟩
  · rintro (same | ⟨conforming, -⟩)
    · exact .inr same
    · exact .inl conforming
  · rintro (conforming | same)
    · exact .inr ⟨conforming, Nat.le_of_lt_succ d.level_lt⟩
    · exact .inl same

theorem loadsAsData_iff {running : Nat} :
    d.LoadsAsData running ↔ d.IsWritableData ∧ d.level = running :=
  ⟨fun h => ⟨⟨h.present, h.ordinary, h.not_executable, h.writable⟩, h.level_eq⟩,
    fun ⟨h, level_eq⟩ => ⟨h.present, h.ordinary, h.not_executable, h.writable, level_eq⟩⟩

namespace AlikeForLoading

variable (alike : d.AlikeForLoading e)

include alike

theorem symm : e.AlikeForLoading d := Eq.symm alike

theorem getLsbD_eq {i : Nat} (first : 41 ≤ i) (last : i < 48) : d.bits.getLsbD i = e.bits.getLsbD i := by
  have bit := congrArg (fun x => BitVec.getLsbD x (i - 41)) alike
  have inside : i - 41 < 7 := by omega
  simpa [inside, Nat.add_sub_cancel' first] using bit

theorem level_eq : d.level = e.level := by
  have field : d.bits.extractLsb' 45 2 = e.bits.extractLsb' 45 2 := by
    apply BitVec.eq_of_getLsbD_eq
    intro i hi
    simp only [BitVec.getLsbD_extractLsb', alike.getLsbD_eq (i := 45 + i) (by omega) (by omega)]
  rw [level, level, field]

theorem isCode (h : d.IsCode) : e.IsCode where
  present := by rw [← alike.getLsbD_eq (by decide) (by decide), h.present]
  ordinary := by rw [← alike.getLsbD_eq (by decide) (by decide), h.ordinary]
  executable := by rw [← alike.getLsbD_eq (by decide) (by decide), h.executable]

theorem isWritableData (h : d.IsWritableData) : e.IsWritableData where
  present := by rw [← alike.getLsbD_eq (by decide) (by decide), h.present]
  ordinary := by rw [← alike.getLsbD_eq (by decide) (by decide), h.ordinary]
  not_executable := by rw [← alike.getLsbD_eq (by decide) (by decide), h.not_executable]
  writable := by rw [← alike.getLsbD_eq (by decide) (by decide), h.writable]

end AlikeForLoading

end Descriptor

/-! ## Selectors -/

namespace GlobalTable

variable {shape : TableShape} {t u : GlobalTable shape} {Demand : Descriptor → Prop}

/-- A selector that names a descriptor of the table is judged by that descriptor. -/
theorem exists_descriptor?_iff {c : SegmentClass} {s : Selector c} (global : s.table = .gdt)
    (pos : 0 < s.index) (inside : s.index < shape.entries) :
    (∃ d, t.descriptor? s = some d ∧ Demand d) ↔ t.Provides s.index Demand := by
  have here : t.descriptors[s.index]? = some t.descriptors[s.index] :=
    Vector.getElem?_eq_some_iff.2 ⟨inside, rfl⟩
  rw [Provides, here, descriptor?_eq_some_iff.2 ⟨global, Nat.ne_of_gt pos, here⟩]
  simp

theorem three_le_entries (shape : TableShape) : 3 ≤ shape.entries := by
  cases shape <;> decide

theorem loadsCode_kernel_iff : t.loadsCode kernelCode .ring0 = true ↔ t.HasKernelCode := by
  have inside : kernelCode.index < shape.entries :=
    Nat.lt_of_lt_of_le (by decide) (three_le_entries shape)
  rw [loadsCode_eq_true_iff, exists_descriptor?_iff rfl (by decide) inside]
  exact forall₂_congr fun d _ => Descriptor.loadsAsCode_kernel_iff

theorem loadsData_kernel_iff : t.loadsData kernelData .ring0 = true ↔ t.HasKernelData := by
  have inside : kernelData.index < shape.entries :=
    Nat.lt_of_lt_of_le (by decide) (three_le_entries shape)
  have asks : kernelData.ring = .ring0 := rfl
  rw [loadsData_eq_true_iff, exists_descriptor?_iff rfl (by decide) inside, and_iff_right asks]
  exact forall₂_congr fun d _ => Descriptor.loadsAsData_iff

theorem loadsCode_user_iff {t : GlobalTable .withUser} :
    t.loadsCode userCode .ring3 = true ↔ t.HasUserCode := by
  rw [loadsCode_eq_true_iff, exists_descriptor?_iff rfl (by decide) (by decide)]
  exact forall₂_congr fun d _ => Descriptor.loadsAsCode_user_iff

theorem loadsData_user_iff {t : GlobalTable .withUser} :
    t.loadsData userData .ring3 = true ↔ t.HasUserData := by
  have asks : userData.ring = .ring3 := rfl
  rw [loadsData_eq_true_iff, exists_descriptor?_iff rfl (by decide) (by decide), and_iff_right asks]
  exact forall₂_congr fun d _ => Descriptor.loadsAsData_iff

/-- The table without user segments demands nothing of them. -/
theorem provides_of_kernelOnly {t : GlobalTable .kernelOnly} {i : Nat} (beyond : 3 ≤ i) :
    t.Provides i Demand := by
  intro d found
  obtain ⟨inside, -⟩ := Vector.getElem?_eq_some_iff.1 found
  exact absurd inside (Nat.not_lt.2 beyond)

/-! ## The check -/

/-- What the check comes to. -/
inductive Judged (t : GlobalTable shape) : Except TableError Unit → Prop where
  | refused {s : HalfWord} : t.FirstRefused s → Judged t (.error (.accessDenied s))
  | accepted : t.Loadable → Judged t (.ok ())

theorem FirstRefused.not_loadable {s : HalfWord} (h : t.FirstRefused s) : ¬ t.Loadable := by
  intro loadable
  cases h with
  | kernelCode bad => exact bad loadable.kernelCode
  | kernelData _ bad => exact bad loadable.kernelData
  | userCode _ _ bad => exact bad loadable.userCode
  | userData _ _ _ bad => exact bad loadable.userData

theorem FirstRefused.unique {s r : HalfWord} (h : t.FirstRefused s) (k : t.FirstRefused r) : s = r := by
  cases h <;> cases k <;> first | rfl | contradiction

theorem Judged.unique {a b : Except TableError Unit} (h : t.Judged a) (k : t.Judged b) : a = b := by
  cases h with
  | refused first =>
    cases k with
    | refused first' => rw [first.unique first']
    | accepted loadable => exact absurd loadable first.not_loadable
  | accepted loadable =>
    cases k with
    | refused first => exact absurd loadable first.not_loadable
    | accepted => rfl

/-- **The check goes through the selectors in order**, and stops at the first that is refused. -/
theorem judged_checkAccess (t : GlobalTable shape) : t.Judged t.checkAccess := by
  by_cases code : t.HasKernelCode
  case neg =>
    have code_fails := Bool.eq_false_iff.2 (mt loadsCode_kernel_iff.1 code)
    have refused : t.checkAccess = .error (.accessDenied kernelCode.bits) := by
      cases shape <;> simp [checkAccess, verdicts, hasUserSegments, code_fails]
    rw [refused]
    exact .refused (.kernelCode code)
  have code_loads := loadsCode_kernel_iff.2 code
  by_cases data : t.HasKernelData
  case neg =>
    have data_fails := Bool.eq_false_iff.2 (mt loadsData_kernel_iff.1 data)
    have refused : t.checkAccess = .error (.accessDenied kernelData.bits) := by
      cases shape <;> simp [checkAccess, verdicts, hasUserSegments, code_loads, data_fails]
    rw [refused]
    exact .refused (.kernelData code data)
  have data_loads := loadsData_kernel_iff.2 data
  cases shape with
  | kernelOnly =>
    have accepted : t.checkAccess = .ok () := by
      simp [checkAccess, verdicts, hasUserSegments, code_loads, data_loads]
    rw [accepted]
    exact .accepted ⟨code, data, provides_of_kernelOnly (by decide), provides_of_kernelOnly (by decide)⟩
  | withUser =>
    by_cases user_code : t.HasUserCode
    case neg =>
      have user_code_fails := Bool.eq_false_iff.2 (mt loadsCode_user_iff.1 user_code)
      have refused : t.checkAccess = .error (.accessDenied userCode.bits) := by
        simp [checkAccess, verdicts, hasUserSegments, code_loads, data_loads, user_code_fails]
      rw [refused]
      exact .refused (.userCode code data user_code)
    have user_code_loads := loadsCode_user_iff.2 user_code
    by_cases user_data : t.HasUserData
    case neg =>
      have user_data_fails := Bool.eq_false_iff.2 (mt loadsData_user_iff.1 user_data)
      have refused : t.checkAccess = .error (.accessDenied userData.bits) := by
        simp [checkAccess, verdicts, hasUserSegments, code_loads, data_loads, user_code_loads,
          user_data_fails]
      rw [refused]
      exact .refused (.userData code data user_code user_data)
    have user_data_loads := loadsData_user_iff.2 user_data
    have accepted : t.checkAccess = .ok () := by
      simp [checkAccess, verdicts, hasUserSegments, code_loads, data_loads, user_code_loads,
        user_data_loads]
    rw [accepted]
    exact .accepted ⟨code, data, user_code, user_data⟩

/-! ## What the check does not look at -/

namespace AlikeForLoading

variable (alike : t.AlikeForLoading u)

include alike

theorem symm : u.AlikeForLoading t := fun i d e pos at_u at_t => (alike i e d pos at_t at_u).symm

theorem provides {i : Nat} (pos : 0 < i)
    (carries : ∀ d e : Descriptor, d.AlikeForLoading e → Demand d → Demand e)
    (h : t.Provides i Demand) : u.Provides i Demand := by
  intro e found
  obtain ⟨inside, -⟩ := Vector.getElem?_eq_some_iff.1 found
  have here : t.descriptors[i]? = some t.descriptors[i] := Vector.getElem?_eq_some_iff.2 ⟨inside, rfl⟩
  exact carries _ e (alike i _ e pos here found) (h _ here)

theorem hasKernelCode (h : t.HasKernelCode) : u.HasKernelCode :=
  alike.provides (by decide) (fun _ _ same ⟨code, level⟩ => ⟨same.isCode code, same.level_eq ▸ level⟩) h

theorem hasKernelData (h : t.HasKernelData) : u.HasKernelData :=
  alike.provides (by decide)
    (fun _ _ same ⟨data, level⟩ => ⟨same.isWritableData data, same.level_eq ▸ level⟩) h

theorem hasUserCode (h : t.HasUserCode) : u.HasUserCode := by
  refine alike.provides (by decide) (fun d e same demand => ?_) h
  rw [← same.level_eq, ← same.getLsbD_eq (i := 42) (by decide) (by decide)]
  exact ⟨same.isCode demand.1, demand.2⟩

theorem hasUserData (h : t.HasUserData) : u.HasUserData :=
  alike.provides (by decide)
    (fun _ _ same ⟨data, level⟩ => ⟨same.isWritableData data, same.level_eq ▸ level⟩) h

/-- Tables that agree in what loading looks at are judged alike. -/
theorem judged {answer : Except TableError Unit} (h : t.Judged answer) : u.Judged answer := by
  have back := alike.symm
  cases h with
  | refused first =>
    refine .refused ?_
    cases first with
    | kernelCode bad => exact .kernelCode (mt back.hasKernelCode bad)
    | kernelData code bad => exact .kernelData (alike.hasKernelCode code) (mt back.hasKernelData bad)
    | userCode code data bad =>
      exact .userCode (alike.hasKernelCode code) (alike.hasKernelData data) (mt back.hasUserCode bad)
    | userData code data user_code bad =>
      exact .userData (alike.hasKernelCode code) (alike.hasKernelData data)
        (alike.hasUserCode user_code) (mt back.hasUserData bad)
  | accepted loadable =>
    exact .accepted ⟨alike.hasKernelCode loadable.kernelCode, alike.hasKernelData loadable.kernelData,
      alike.hasUserCode loadable.userCode, alike.hasUserData loadable.userData⟩

end AlikeForLoading

/-- **The check accepts exactly the loadable tables**, and otherwise names the first selector that is
refused. Tables that differ in nothing but accessed bits, bases, limits and flags, and in the descriptor
in front of the others, get the same answer. -/
theorem checkAccess_decides (t : GlobalTable shape) :
    (t.checkAccess = .ok () ↔ t.Loadable) ∧
    (∀ s, t.checkAccess = .error (.accessDenied s) ↔ t.FirstRefused s) ∧
    (∀ e, t.checkAccess = .error e → ∃ s, e = .accessDenied s) ∧
    ∀ u, t.AlikeForLoading u → u.checkAccess = t.checkAccess := by
  have judged := judged_checkAccess t
  refine ⟨⟨?_, ?_⟩, fun s => ⟨?_, ?_⟩, ?_, ?_⟩
  · intro accepted
    rw [accepted] at judged
    cases judged with
    | accepted loadable => exact loadable
  · exact fun loadable => judged.unique (.accepted loadable)
  · intro refused
    rw [refused] at judged
    cases judged with
    | refused first => exact first
  · exact fun first => judged.unique (.refused first)
  · intro e refused
    rw [refused] at judged
    cases judged with
    | refused first => exact ⟨_, rfl⟩
  · exact fun u alike => (judged_checkAccess u).unique (alike.judged judged)

/-- The flat table once the processor has used every segment of it, with other bases, limits and flags,
and with something in front. -/
def usedTable : GlobalTable .withUser :=
  ⟨#v[⟨0xFFFFFFFFFFFFFFFF⟩, ⟨0x12349B567890ABCD⟩, ⟨0x000093000000FFFF⟩, ⟨0xFF5FFB00000A0000⟩,
    ⟨0x8001F31234560FFF⟩]⟩

theorem usedTable_accepted :
    (flat .withUser).AlikeForLoading usedTable ∧
      usedTable.checkAccess = .ok () ∧ usedTable.Loadable := by
  have alike : (flat .withUser).AlikeForLoading usedTable := by
    have pairs : ∀ i : Fin 5, 0 < i.val →
        (flat .withUser).descriptors[i].AlikeForLoading usedTable.descriptors[i] := by decide
    intro i d e pos at_flat at_used
    obtain ⟨inside, rfl⟩ := Vector.getElem?_eq_some_iff.1 at_flat
    obtain ⟨-, rfl⟩ := Vector.getElem?_eq_some_iff.1 at_used
    exact pairs ⟨i, inside⟩ pos
  obtain ⟨-, -, -, same⟩ := checkAccess_decides (flat .withUser)
  have accepted : usedTable.checkAccess = .ok () := (same usedTable alike).trans rfl
  exact ⟨alike, accepted, (checkAccess_decides usedTable).1.1 accepted⟩

end GlobalTable

end ProtectedBoot
