import Icmp2.Library.Peak
import Icmp2.Monitoring.Thresholds

/-
  The danger level and the list of exceeded limits agree.

  Main definitions include:
    * `Icmp2.Monitoring.reportedLevel`

  Main theorems include:
    * `Icmp2.Monitoring.calcDangerLevel_eq_peak`
    * `Icmp2.Monitoring.mem_levels_iff`
    * `Icmp2.Monitoring.gas_graders_agree`

  Both graders go over the same levels: that of oxygen and
  that of each entry of the table.  One keeps the highest
  of them, the other lists those that are not normal.
-/

------------------------------------------------------------
-- The Order of the Levels
------------------------------------------------------------

namespace Icmp2

namespace Monitoring

open Library

namespace Level

theorem priority_injective :
    Function.Injective priority := by
  intro left right hPriority
  cases left <;> cases right <;> first | rfl | cases hPriority

/- The order of `LEVEL_PRIORITY`. -/
instance : LinearOrder Level :=
  LinearOrder.lift' priority priority_injective

instance : OrderBot Level where
  bot := .normal
  bot_le level := Nat.zero_le level.priority

@[simp] theorem bot_eq_normal :
    (⊥ : Level) = .normal := by
  rfl

theorem highest_eq_max
    (left right : Level) :
    left.highest right = max left right := by
  cases left <;> cases right <;> rfl

end Level

/- A greater value never has a lower level. -/
theorem gradeValue_mono
    (limits : ℚ × ℚ)
    {small large : ℚ}
    (hLe : small ≤ large) :
    gradeValue limits small ≤ gradeValue limits large := by
  cases hSmall : gradeValue limits small with
  | normal => exact bot_le
  | caution =>
      have hWarning :=
        ((gradeValue_eq_caution_iff _ _).mp hSmall).1
      unfold gradeValue
      rw [if_pos (c := large ≥ limits.1)
        (hWarning.trans hLe)]
      split_ifs <;> decide
  | danger =>
      have hDanger :=
        (gradeValue_eq_danger_iff _ _).mp hSmall
      rw [(gradeValue_eq_danger_iff limits large).mpr
        (hDanger.trans hLe)]

end Monitoring

end Icmp2

------------------------------------------------------------
-- The Levels of a Reading
------------------------------------------------------------

namespace Icmp2

namespace Monitoring

open Library

variable (policies : List ThresholdPolicy)
variable (reading : GasReading)
variable (scope : String)

/- The level of oxygen and of each entry of the table. -/
def gradedLevels : List Level :=
  o2Start reading ::
    (getThresholds policies scope).entries.map
      (entryLevel reading)

/- The highest level that a list reports for a gas. -/
def reportedLevel
    (found : List Exceeded)
    (gas : String) :
    Level :=
  peak
    ((found.filter fun entry => entry.gas = gas).map
      Exceeded.level)

/- The danger level is the highest of them. -/
theorem calcDangerLevel_eq_peak :
    calcDangerLevel policies reading =
      peak (gradedLevels policies reading realtimeScope) := by
  have hStep :
      gradeEntry reading =
        fun level entry =>
          max level (entryLevel reading entry) := by
    funext level entry
    rw [gradeEntry_eq_highest, Level.highest_eq_max]
  rw [calcDangerLevel, hStep, ← List.foldl_map, foldl_max]
  rfl

theorem level_report_iff
    (gas : String)
    (value : ℚ)
    {level given : Level}
    (hLevel : level ≠ .normal) :
    (∃ found ∈ report gas value given,
        found.level = level) ↔
      given = level := by
  constructor
  · rintro ⟨found, hFound, rfl⟩
    rw [((report_eq_some_iff _ _ _ _).mp hFound).2]
  · rintro rfl
    exact
      ⟨⟨gas, value, given⟩,
        (report_eq_some_iff _ _ _ _).mpr ⟨hLevel, rfl⟩,
        rfl⟩

theorem level_o2Exceeded_iff
    {level : Level}
    (hLevel : level ≠ .normal) :
    (∃ found ∈ o2Exceeded reading,
        found.level = level) ↔
      o2Start reading = level := by
  unfold o2Exceeded o2Start
  cases hValue : reading.value .o2 with
  | none => simpa using hLevel.symm
  | some value => exact level_report_iff _ _ hLevel

theorem level_entryExceeded_iff
    (entry : String × (ℚ × ℚ))
    {level : Level}
    (hLevel : level ≠ .normal) :
    (∃ found ∈ entryExceeded reading entry,
        found.level = level) ↔
      entryLevel reading entry = level := by
  unfold entryExceeded entryLevel
  by_cases hO2 : entry.1 = "o2"
  · simpa [hO2] using hLevel.symm
  · rw [if_neg hO2, if_neg hO2]
    cases hValue : reading.getattr entry.1 with
    | none => simpa using hLevel.symm
    | some value => exact level_report_iff _ _ hLevel

/- The list reports those that are not normal. -/
theorem mem_levels_iff
    {level : Level}
    (hLevel : level ≠ .normal) :
    level ∈
        (checkThresholdExceeded policies reading scope).map
          Exceeded.level ↔
      level ∈ gradedLevels policies reading scope := by
  have hO2 := level_o2Exceeded_iff reading hLevel
  have hEntry := fun entry =>
    level_entryExceeded_iff reading entry hLevel
  constructor
  · intro hMem
    rcases List.mem_map.mp hMem with ⟨found, hFound, hSame⟩
    rcases List.mem_append.mp hFound with hStart | hRest
    · rw [← hO2.mp
        ⟨found, Option.mem_toList.mp hStart, hSame⟩]
      exact List.mem_cons_self
    · rcases List.mem_filterMap.mp hRest with
        ⟨entry, hTable, hReport⟩
      apply List.mem_cons_of_mem
      apply List.mem_map.mpr
      exact
        ⟨entry, hTable,
          (hEntry entry).mp ⟨found, hReport, hSame⟩⟩
  · intro hMem
    rcases List.mem_cons.mp hMem with hStart | hRest
    · rcases hO2.mpr hStart.symm with
        ⟨found, hFound, hSame⟩
      apply List.mem_map.mpr
      exact
        ⟨found,
          List.mem_append_left _
            (Option.mem_toList.mpr hFound),
          hSame⟩
    · rcases List.mem_map.mp hRest with
        ⟨entry, hTable, hGrade⟩
      rcases (hEntry entry).mpr hGrade with
        ⟨found, hFound, hSame⟩
      apply List.mem_map.mpr
      exact
        ⟨found,
          List.mem_append_right _
            (List.mem_filterMap.mpr
              ⟨entry, hTable, hFound⟩),
          hSame⟩

end Monitoring

end Icmp2

------------------------------------------------------------
-- Rising Values
------------------------------------------------------------

namespace Icmp2

namespace Monitoring

open Library

/- The same oxygen, and no attribute lower or lost. -/
structure GasReading.RaisedTo
    (reading later : GasReading) :
    Prop where
  sameO2 : later.value .o2 = reading.value .o2
  noLower :
    ∀ metric,
      ∀ small ∈ reading.getattr metric,
        ∃ large ∈ later.getattr metric, small ≤ large

theorem GasReading.raisedTo_withValue
    {reading : GasReading}
    {gas : Gas}
    {small large : ℚ}
    (hGas : gas ≠ .o2)
    (hValue : reading.value gas = some small)
    (hLe : small ≤ large) :
    reading.RaisedTo (reading.withValue gas large) where
  sameO2 := Function.update_of_ne hGas.symm _ _
  noLower := by
    intro metric value hMem
    unfold getattr withValue at *
    cases hName : Gas.ofName? metric with
    | none =>
        rw [hName] at hMem
        exact ⟨value, hMem, le_refl value⟩
    | some named =>
        rw [hName] at hMem
        by_cases hSame : named = gas
        · subst hSame
          have hSmall := hValue.symm.trans hMem
          refine
            ⟨large, Function.update_self _ _ _, ?_⟩
          rwa [← Option.some.inj hSmall]
        · refine ⟨value, ?_, le_refl value⟩
          exact
            (Function.update_of_ne hSame _ _).trans hMem

section Raised

variable {reading later : GasReading}
variable (hRaised : reading.RaisedTo later)
include hRaised

theorem entryLevel_mono
    (entry : String × (ℚ × ℚ)) :
    entryLevel reading entry ≤ entryLevel later entry := by
  unfold entryLevel
  by_cases hO2 : entry.1 = "o2"
  · rw [if_pos hO2, if_pos hO2]
  · rw [if_neg hO2, if_neg hO2]
    cases hValue : reading.getattr entry.1 with
    | none => exact bot_le
    | some small =>
        rcases hRaised.noLower entry.1 small hValue with
          ⟨large, hLarge, hLe⟩
        rw [Option.mem_def.mp hLarge]
        exact gradeValue_mono entry.2 hLe

theorem calcDangerLevel_mono
    (policies : List ThresholdPolicy) :
    calcDangerLevel policies reading ≤
      calcDangerLevel policies later := by
  rw [calcDangerLevel_eq_peak, calcDangerLevel_eq_peak]
  apply peak_mono
  intro level hMem
  rcases List.mem_cons.mp hMem with rfl | hRest
  · refine ⟨_, List.mem_cons_self, ?_⟩
    unfold o2Start
    rw [hRaised.sameO2]
  · rcases List.mem_map.mp hRest with ⟨entry, hEntry, rfl⟩
    exact
      ⟨entryLevel later entry,
        List.mem_cons_of_mem _
          (List.mem_map_of_mem hEntry),
        entryLevel_mono hRaised entry⟩

/- A gas that is reported stays so, at no lower level. -/
theorem reportedLevel_mono
    (policies : List ThresholdPolicy)
    (scope : String)
    {gas : String}
    (hGas : gas ≠ "o2") :
    reportedLevel
        (checkThresholdExceeded policies reading scope)
        gas ≤
      reportedLevel
        (checkThresholdExceeded policies later scope)
        gas := by
  apply peak_mono
  intro level hMem
  rcases List.mem_map.mp hMem with ⟨found, hFound, rfl⟩
  rcases List.mem_filter.mp hFound with ⟨hListed, hName⟩
  obtain rfl : found.gas = gas := by simpa using hName
  rcases (mem_checkThresholdExceeded_iff
      policies reading scope hGas).mp hListed with
    ⟨limits, small, hTable, hSmall, hLevel, hEq⟩
  rcases hRaised.noLower found.gas small hSmall with
    ⟨large, hLarge, hLe⟩
  have hMono := gradeValue_mono limits hLe
  refine
    ⟨gradeValue limits large, ?_, ?_⟩
  · apply List.mem_map.mpr
    refine
      ⟨⟨found.gas, large, gradeValue limits large⟩, ?_,
        rfl⟩
    apply List.mem_filter.mpr
    refine ⟨?_, by simp⟩
    rw [mem_checkThresholdExceeded_iff policies later scope
      (by exact hGas)]
    refine ⟨limits, large, hTable, hLarge, ?_, rfl⟩
    intro hNormal
    rw [hNormal] at hMono
    exact hLevel (le_bot_iff.mp hMono)
  · rw [hEq]
    exact hMono

end Raised

/-
  The danger level is the highest level of the list, and a
  gas other than oxygen that rises lowers neither the
  danger level nor its own level in the list.
-/
theorem gas_graders_agree
    (policies : List ThresholdPolicy)
    (reading : GasReading) :
    calcDangerLevel policies reading =
        peak
          ((checkThresholdExceeded policies reading
            realtimeScope).map Exceeded.level) ∧
      ∀ gas small large,
        gas ≠ .o2 →
        reading.value gas = some small →
        small ≤ large →
        calcDangerLevel policies reading ≤
            calcDangerLevel policies
              (reading.withValue gas large) ∧
          ∀ scope,
            reportedLevel
                (checkThresholdExceeded policies reading
                  scope)
                gas.name ≤
              reportedLevel
                (checkThresholdExceeded policies
                  (reading.withValue gas large) scope)
                gas.name := by
  constructor
  · rw [calcDangerLevel_eq_peak]
    apply peak_congr
    intro level hLevel
    exact
      (mem_levels_iff policies reading realtimeScope
        hLevel).symm
  · intro gas small large hGas hValue hLe
    have hRaised :=
      GasReading.raisedTo_withValue hGas hValue hLe
    refine ⟨calcDangerLevel_mono hRaised policies, ?_⟩
    intro scope
    apply reportedLevel_mono hRaised
    intro hName
    exact hGas (Gas.name_injective hName)

/- Carbon monoxide alone, rising to its danger limit. -/
theorem gas_graders_agree_co :
    calcDangerLevel [] (soleReading .co 30) ≤
      calcDangerLevel []
        ((soleReading .co 30).withValue .co 250) :=
  ((gas_graders_agree [] (soleReading .co 30)).2
    .co 30 250 (by decide) rfl (by decide +kernel)).1

end Monitoring

end Icmp2
