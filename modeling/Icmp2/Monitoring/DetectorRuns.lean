import Icmp2.Monitoring.Detectors

/-
  What the detectors answer over whole runs.

  Main definitions include:
    * `Icmp2.Monitoring.shiftLog`

  Main theorems include:
    * `Icmp2.Monitoring.window_detectorStep`
    * `Icmp2.Monitoring.changepoint_log_faithful`

  The first detector changes no memory; the second one reads
  the windows as the model of the window has it, so what is
  known about the windows of a run holds here.
-/

------------------------------------------------------------
-- Memory
------------------------------------------------------------

namespace Icmp2

namespace Monitoring

open Library

section Memory

variable {std : List ℚ → ℚ}
variable {deviceUid : String}
variable {gas : Gas}

/- A buffer in use is not touched by a read. -/
theorem buffers_windowGet
    (rows : List GasReading)
    {buffers : Buffers}
    {gasBuffers : GasBuffers}
    (hBuffers : buffers deviceUid = some gasBuffers)
    (hItems : (gasBuffers gas).items ≠ [])
    (n : Int) :
    (windowGet rows deviceUid gas n buffers).2 =
      buffers := by
  have hEnsure :
      buffers.ensure deviceUid = gasBuffers := by
    rw [Buffers.ensure, hBuffers, Option.getD_some]
  simp only [windowGet, hEnsure, if_neg hItems]
  funext other
  by_cases hSame : other = deviceUid
  · rw [Buffers.set, if_pos hSame, hSame, hBuffers]
  · rw [Buffers.set, if_neg hSame]

theorem Zscore.isReady_iff
    (buffers : Buffers)
    (samples : Nat) :
    Zscore.isReady buffers deviceUid gas samples = true ↔
      ∃ gasBuffers,
        buffers deviceUid = some gasBuffers ∧
          samples ≤ (gasBuffers gas).items.length := by
  unfold Zscore.isReady
  cases buffers deviceUid with
  | none =>
      refine iff_of_false Bool.false_ne_true ?_
      rintro ⟨_, hSome, _⟩
      cases hSome
  | some gasBuffers =>
      constructor
      · intro hReady
        exact ⟨gasBuffers, rfl, of_decide_eq_true hReady⟩
      · rintro ⟨_, hSome, hLong⟩
        cases hSome
        exact decide_eq_true hLong

/- STEP D leaves the memory as it is. -/
theorem Zscore.analyzeGas_memory
    (exceeded : List Exceeded)
    (reading : GasReading)
    (memory : WindowState)
    (gas : Gas) :
    (Zscore.analyzeGas std exceeded deviceUid reading
      memory gas).1 = memory := by
  unfold Zscore.analyzeGas
  split
  · rfl
  · split
    · rfl
    · split
      · rename_i hReady
        rcases (Zscore.isReady_iff _ _).mp hReady with
          ⟨gasBuffers, hBuffers, hLong⟩
        have hItems : (gasBuffers gas).items ≠ [] := by
          intro hNil
          rw [hNil] at hLong
          exact absurd hLong (by decide)
        have hSame :=
          buffers_windowGet (memory.rowsOf deviceUid)
            hBuffers hItems windowSize
        simp only [hSame]
      · rfl

theorem Zscore.analyzeGases_eq
    (exceeded : List Exceeded)
    (reading : GasReading)
    (gases : List Gas)
    (memory : WindowState) :
    Zscore.analyzeGases std exceeded deviceUid reading gases
        memory =
      (memory,
        gases.filterMap fun gas =>
          (Zscore.analyzeGas std exceeded deviceUid reading
            memory gas).2) := by
  induction gases with
  | nil => rfl
  | cons gas gases ih =>
      rw [Zscore.analyzeGases, Zscore.analyzeGas_memory, ih,
        List.filterMap_cons]
      cases (Zscore.analyzeGas std exceeded deviceUid
        reading memory gas).2 <;> rfl

/- STEP E reads the window of one gas after the other. -/
theorem Changepoint.window_detectGases
    (measuredAt : Instant)
    (gases : List Gas)
    (memory : Detectors) :
    (Changepoint.detectGases std deviceUid measuredAt gases
      memory).1.window =
      run (detectorRead deviceUid) memory.window gases := by
  induction gases generalizing memory with
  | nil => rfl
  | cons gas gases ih =>
      have hFirst :
          (Changepoint.detectGas std deviceUid measuredAt
            memory gas).1.window =
            detectorRead deviceUid memory.window gas := by
        simp only [Changepoint.detectGas]
        split <;> rfl
      rw [Changepoint.detectGases, run_cons, ← hFirst]
      exact ih _

/- The window does what the model of the window says. -/
theorem window_detectorStep
    (memory : Detectors)
    (op : DetectorOp) :
    (detectorStep std memory op).window =
      windowStep memory.window op.window := by
  cases op with
  | restart => rfl
  | ingest policies reading =>
      simp only [detectorStep, ingestReading, Zscore.analyze,
        Zscore.analyzeGases_eq, Changepoint.detect,
        Changepoint.window_detectGases]
      rfl

theorem window_run
    (memory : Detectors)
    (ops : List DetectorOp) :
    (run (detectorStep std) memory ops).window =
      run windowStep memory.window
        (ops.map DetectorOp.window) := by
  induction ops generalizing memory with
  | nil => rfl
  | cons op ops ih =>
      rw [run_cons, ih, window_detectorStep]
      rfl

end Memory

end Monitoring

end Icmp2

------------------------------------------------------------
-- One Gas of One Device
------------------------------------------------------------

namespace Icmp2

namespace Monitoring

namespace Changepoint

open Library

/- The event with which a verdict is reported. -/
def Event.of : Bool → Event
  | true => .changePoint
  | false => .backToStable

theorem Event.of_injective :
    Function.Injective Event.of := by
  intro first second hSame
  cases first <;> cases second <;> simp_all [Event.of]

/- The results about one gas of one device. -/
def ofGas
    (deviceUid : String)
    (gas : Gas)
    (results : List Result) :
    List Result :=
  results.filter fun result =>
    result.deviceUid = deviceUid ∧ result.metric = gas

/- The whole window that STEP E reads. -/
def readWhole
    (deviceUid : String)
    (gas : Gas)
    (window : WindowState) :
    List ℚ :=
  (windowGet (window.rowsOf deviceUid) deviceUid gas
    bufferSize window.buffers).1

/- The result about a gas, if its window is whole. -/
def resultOf
    (std : List ℚ → ℚ)
    (deviceUid : String)
    (measuredAt : Instant)
    (gas : Gas)
    (shift : Bool)
    (values : List ℚ) :
    Option Result :=
  if values.length < bufferSize then
    none
  else
    some
      (windowResult std deviceUid measuredAt gas shift
        values)

section OneGas

variable {std : List ℚ → ℚ}
variable {deviceUid other : String}
variable {measuredAt : Instant}
variable {gas : Gas}
variable {gases : List Gas}

/- The state machine is a latch of the verdicts. -/
theorem transition_eq
    (shift change : Bool) :
    transition shift change =
      (edge shift change).map Event.of := by
  cases shift <;> cases change <;> rfl

/- The state that is reported is the verdict. -/
theorem shift_windowResult
    (shift : Bool)
    (values : List ℚ) :
    (windowResult std deviceUid measuredAt gas shift
      values).shift = isChange std values := by
  simp only [windowResult]
  cases shift <;> cases isChange std values <;> rfl

/- A result reports the edge at its verdict. -/
theorem events_resultOf
    (gas : Gas)
    (shift : Bool)
    (values : List ℚ) :
    (resultOf std deviceUid measuredAt gas shift
        values).toList.filterMap Result.event =
      (edges shift
        ((resultOf std deviceUid measuredAt gas shift
          values).toList.map Result.isChange)).map
        Event.of := by
  unfold resultOf
  split_ifs with hShort
  · rfl
  · have hEvent :
        (windowResult std deviceUid measuredAt gas shift
          values).event =
          (edge shift (isChange std values)).map Event.of :=
      transition_eq _ _
    rw [Option.toList_some, List.map_singleton, edges,
      edges, List.append_nil, List.filterMap_cons, hEvent]
    change _ =
      (edge shift (isChange std values)).toList.map Event.of
    cases edge shift (isChange std values) <;> rfl

/- The state behind a result is its verdict. -/
theorem shift_resultOf
    (gas : Gas)
    (shift : Bool)
    (values : List ℚ) :
    ((resultOf std deviceUid measuredAt gas shift
        values).map Result.shift).getD shift =
      ((resultOf std deviceUid measuredAt gas shift
        values).toList.map Result.isChange).getLastD
        shift := by
  unfold resultOf
  split_ifs with hShort
  · rfl
  · exact shift_windowResult shift values

/- A window is judged once it is whole. -/
theorem verdicts_resultOf
    (gas : Gas)
    (shift : Bool)
    (values : List ℚ) :
    (resultOf std deviceUid measuredAt gas shift
        (values.rtake bufferSize)).toList.map
          Result.isChange =
      (if bufferSize ≤ values.length then
          [values.rtake bufferSize]
        else
          []).map (isChange std) := by
  have hLength :
      (values.rtake bufferSize).length < bufferSize ↔
        ¬ bufferSize ≤ values.length := by
    rw [length_rtake]
    omega
  by_cases hLong : bufferSize ≤ values.length
  · rw [if_pos hLong, resultOf,
      if_neg (hLength.not.mpr (not_not.mpr hLong))]
    rfl
  · rw [if_neg hLong, resultOf, if_pos (hLength.mpr hLong)]
    rfl

/- One gas in the loop, by its result. -/
theorem detectGas_eq
    (memory : Detectors)
    (gas : Gas) :
    detectGas std deviceUid measuredAt memory gas =
      ({ window := detectorRead deviceUid memory.window gas
         shifted :=
          match
            resultOf std deviceUid measuredAt gas
              (memory.shifted deviceUid gas)
              (readWhole deviceUid gas memory.window) with
          | none => memory.shifted
          | some result =>
              Function.update memory.shifted deviceUid
                (Function.update (memory.shifted deviceUid)
                  gas result.shift) },
        resultOf std deviceUid measuredAt gas
          (memory.shifted deviceUid gas)
          (readWhole deviceUid gas memory.window)) := by
  by_cases hShort :
      (readWhole deviceUid gas memory.window).length <
        bufferSize
  · simp only [resultOf, if_pos hShort]
    exact if_pos hShort
  · simp only [resultOf, if_neg hShort]
    exact if_neg hShort

theorem about_resultOf
    {shift : Bool}
    {values : List ℚ}
    {result : Result}
    (hResult :
      resultOf std deviceUid measuredAt gas shift values =
        some result) :
    result.deviceUid = deviceUid ∧ result.metric = gas := by
  unfold resultOf at hResult
  split_ifs at hResult
  cases hResult
  exact ⟨rfl, rfl⟩

/- Another gas or device is not touched. -/
theorem shifted_detectGas_of_ne
    (memory : Detectors)
    {later : Gas}
    (hNe : ¬ (other = deviceUid ∧ later = gas)) :
    (detectGas std deviceUid measuredAt memory
        gas).1.shifted other later =
      memory.shifted other later := by
  rw [detectGas_eq]
  cases resultOf std deviceUid measuredAt gas
      (memory.shifted deviceUid gas)
      (readWhole deviceUid gas memory.window) with
  | none => rfl
  | some result =>
      change
        Function.update memory.shifted deviceUid
            (Function.update (memory.shifted deviceUid) gas
              result.shift) other later =
          memory.shifted other later
      by_cases hUid : other = deviceUid
      · subst hUid
        have hGas : later ≠ gas :=
          fun hSame => hNe ⟨rfl, hSame⟩
        rw [Function.update_self,
          Function.update_of_ne hGas]
      · rw [Function.update_of_ne hUid]

theorem ofGas_detectGas_of_ne
    (memory : Detectors)
    {later : Gas}
    (hNe : ¬ (other = deviceUid ∧ later = gas)) :
    ofGas other later
      (detectGas std deviceUid measuredAt memory
        gas).2.toList = [] := by
  rw [detectGas_eq]
  cases hResult :
      resultOf std deviceUid measuredAt gas
        (memory.shifted deviceUid gas)
        (readWhole deviceUid gas memory.window) with
  | none => rfl
  | some result =>
      rcases about_resultOf hResult with ⟨hUid, hGas⟩
      apply List.filter_eq_nil_iff.mpr
      intro found hFound hAbout
      rcases of_decide_eq_true hAbout with
        ⟨hOther, hLater⟩
      cases List.mem_singleton.mp hFound
      exact
        hNe
          ⟨hOther.symm.trans hUid, hLater.symm.trans hGas⟩

theorem window_detectGas
    (memory : Detectors)
    (gas : Gas) :
    (detectGas std deviceUid measuredAt memory
        gas).1.window =
      detectorRead deviceUid memory.window gas := by
  rw [detectGas_eq]

theorem ofGas_detectGas_self
    (memory : Detectors) :
    ofGas deviceUid gas
        (detectGas std deviceUid measuredAt memory
          gas).2.toList =
      (resultOf std deviceUid measuredAt gas
        (memory.shifted deviceUid gas)
        (readWhole deviceUid gas
          memory.window)).toList := by
  rw [detectGas_eq]
  cases hResult :
      resultOf std deviceUid measuredAt gas
        (memory.shifted deviceUid gas)
        (readWhole deviceUid gas memory.window) with
  | none => rfl
  | some result =>
      apply List.filter_eq_self.mpr
      intro found hFound
      cases List.mem_singleton.mp hFound
      exact decide_eq_true (about_resultOf hResult)

theorem shifted_detectGas_self
    (memory : Detectors) :
    (detectGas std deviceUid measuredAt memory
        gas).1.shifted deviceUid gas =
      ((resultOf std deviceUid measuredAt gas
          (memory.shifted deviceUid gas)
          (readWhole deviceUid gas memory.window)).map
        Result.shift).getD
          (memory.shifted deviceUid gas) := by
  rw [detectGas_eq]
  cases resultOf std deviceUid measuredAt gas
      (memory.shifted deviceUid gas)
      (readWhole deviceUid gas memory.window) with
  | none => rfl
  | some result =>
      change
        Function.update memory.shifted deviceUid
            (Function.update (memory.shifted deviceUid) gas
              result.shift) deviceUid gas =
          result.shift
      rw [Function.update_self, Function.update_self]

/- A loop that leaves the gas out says nothing about it. -/
theorem detectGases_of_not_mem
    {later : Gas}
    (hNot : ¬ (other = deviceUid ∧ later ∈ gases))
    (memory : Detectors) :
    ofGas other later
        (detectGases std deviceUid measuredAt gases
          memory).2 = [] ∧
      (detectGases std deviceUid measuredAt gases
          memory).1.shifted other later =
        memory.shifted other later := by
  induction gases generalizing memory with
  | nil => exact ⟨rfl, rfl⟩
  | cons gas gases ih =>
      have hHead : ¬ (other = deviceUid ∧ later = gas) := by
        rintro ⟨hUid, rfl⟩
        exact hNot ⟨hUid, List.mem_cons_self⟩
      have hTail : ¬ (other = deviceUid ∧ later ∈ gases) := by
        rintro ⟨hUid, hMem⟩
        exact hNot ⟨hUid, List.mem_cons_of_mem gas hMem⟩
      rcases ih hTail
          (detectGas std deviceUid measuredAt memory gas).1
        with ⟨hNone, hKept⟩
      constructor
      · rw [detectGases, ofGas, List.filter_append]
        exact
          List.append_eq_nil_iff.mpr
            ⟨ofGas_detectGas_of_ne memory hHead, hNone⟩
      · exact
          hKept.trans (shifted_detectGas_of_ne memory hHead)

/-
  What the loop says about a gas and does to its state, by
  the window that it reads behind some other gases.
-/
theorem detectGases_of_mem
    (hNodup : gases.Nodup)
    (hMem : gas ∈ gases)
    (memory : Detectors) :
    ∃ front : List Gas,
      let result :=
        resultOf std deviceUid measuredAt gas
          (memory.shifted deviceUid gas)
          (readWhole deviceUid gas
            (run (detectorRead deviceUid) memory.window
              front))
      ofGas deviceUid gas
          (detectGases std deviceUid measuredAt gases
            memory).2 = result.toList ∧
        (detectGases std deviceUid measuredAt gases
            memory).1.shifted deviceUid gas =
          (result.map Result.shift).getD
            (memory.shifted deviceUid gas) := by
  induction gases generalizing memory with
  | nil => cases hMem
  | cons first gases ih =>
      rw [List.nodup_cons] at hNodup
      rcases List.mem_cons.mp hMem with rfl | hRest
      · -- The gas is read first, and not once more.
        have hNot :
            ¬ (deviceUid = deviceUid ∧ gas ∈ gases) :=
          fun hBoth => hNodup.1 hBoth.2
        rcases
          detectGases_of_not_mem hNot
            (detectGas std deviceUid measuredAt memory
              gas).1 with
          ⟨hNone, hKept⟩
        refine ⟨[], ?_, ?_⟩
        · rw [detectGases, ofGas, List.filter_append]
          exact
            (congrArg _ hNone).trans
              ((List.append_nil _).trans
                (ofGas_detectGas_self memory))
        · exact hKept.trans (shifted_detectGas_self memory)
      · have hHead : ¬ (deviceUid = deviceUid ∧ gas = first) := by
          rintro ⟨_, rfl⟩
          exact hNodup.1 hRest
        rcases ih hNodup.2 hRest
            (detectGas std deviceUid measuredAt memory
              first).1 with
          ⟨front, hResult, hShift⟩
        rw [shifted_detectGas_of_ne memory hHead,
          window_detectGas] at hResult hShift
        refine ⟨first :: front, ?_, hShift⟩
        rw [detectGases, ofGas, List.filter_append]
        exact
          (congrArg (· ++ _)
            (ofGas_detectGas_of_ne memory hHead)).trans
              hResult

end OneGas

end Changepoint

end Monitoring

end Icmp2

------------------------------------------------------------
-- The Log of a Gas
------------------------------------------------------------

namespace Icmp2

namespace Monitoring

open Library

variable (std : List ℚ → ℚ)

/- One operation, with the results since the last restart. -/
def logStep
    (deviceUid : String)
    (gas : Gas)
    (state : Detectors × List Changepoint.Result)
    (op : DetectorOp) :
    Detectors × List Changepoint.Result :=
  (detectorStep std state.1 op,
    match op with
    | .ingest _ _ =>
        state.2 ++
          Changepoint.ofGas deviceUid gas
            (answers std state.1 op).changepoint
    | .restart => [])

/- What STEP E said about a gas since the last restart. -/
def shiftLog
    (deviceUid : String)
    (gas : Gas)
    (ops : List DetectorOp) :
    List Changepoint.Result :=
  (run (logStep std deviceUid gas) (.started [], []) ops).2

variable {std : List ℚ → ℚ}
variable {deviceUid : String}
variable {gas : Gas}

theorem fst_run_logStep
    (state : Detectors × List Changepoint.Result)
    (ops : List DetectorOp) :
    (run (logStep std deviceUid gas) state ops).1 =
      run (detectorStep std) state.1 ops := by
  induction ops generalizing state with
  | nil => rfl
  | cons op ops ih => exact ih _

theorem shiftLog_ingest
    (ops : List DetectorOp)
    (policies : List ThresholdPolicy)
    (reading : JoinedReading) :
    shiftLog std deviceUid gas
        (ops ++ [.ingest policies reading]) =
      shiftLog std deviceUid gas ops ++
        Changepoint.ofGas deviceUid gas
          (answers std
            (run (detectorStep std) (.started []) ops)
            (.ingest policies reading)).changepoint := by
  have hMemory :
      (run (logStep std deviceUid gas) (.started [], [])
          ops).1 =
        run (detectorStep std) (.started []) ops :=
    fst_run_logStep _ ops
  unfold shiftLog
  rw [run_append, run_cons, run_nil, logStep, hMemory]

theorem shiftLog_restart
    (ops : List DetectorOp) :
    shiftLog std deviceUid gas (ops ++ [.restart]) = [] := by
  unfold shiftLog
  rw [run_append]
  rfl

/- STEP E starts from the memory behind STEP C. -/
theorem ingestReading_eq
    (memory : Detectors)
    (policies : List ThresholdPolicy)
    (reading : JoinedReading) :
    ingestReading std memory policies reading =
      ((Changepoint.detect std reading.deviceUid
          reading.toGasReading (memory.push reading)).1,
        ⟨(Zscore.analyze std policies reading.deviceUid
            reading.toGasReading
            (memory.push reading).window).2,
          (Changepoint.detect std reading.deviceUid
            reading.toGasReading
            (memory.push reading)).2⟩) := by
  simp only [ingestReading, Zscore.analyze,
    Zscore.analyzeGases_eq]

theorem changepoint_answers
    (memory : Detectors)
    (policies : List ThresholdPolicy)
    (reading : JoinedReading) :
    (answers std memory
        (.ingest policies reading)).changepoint =
      (Changepoint.detectGases std reading.deviceUid
        reading.measuredAt cpGasFields
        (memory.push reading)).2 := by
  rw [answers, ingestReading_eq, Changepoint.detect]

theorem shifted_detectorStep
    (memory : Detectors)
    (policies : List ThresholdPolicy)
    (reading : JoinedReading) :
    (detectorStep std memory
        (.ingest policies reading)).shifted =
      (Changepoint.detectGases std reading.deviceUid
        reading.measuredAt cpGasFields
        (memory.push reading)).1.shifted := by
  rw [detectorStep, ingestReading_eq, Changepoint.detect]

@[simp] theorem shifted_push
    (memory : Detectors)
    (reading : JoinedReading) :
    (memory.push reading).shifted = memory.shifted :=
  rfl

/- The readings of other devices say nothing. -/
theorem ofGas_answers_of_ne
    {reading : JoinedReading}
    (hNe : reading.deviceUid ≠ deviceUid)
    (memory : Detectors)
    (policies : List ThresholdPolicy) :
    Changepoint.ofGas deviceUid gas
        (answers std memory
          (.ingest policies reading)).changepoint = [] ∧
      (detectorStep std memory
          (.ingest policies reading)).shifted deviceUid
            gas =
        memory.shifted deviceUid gas := by
  have hNot :
      ¬ (deviceUid = reading.deviceUid ∧
        gas ∈ cpGasFields) :=
    fun hBoth => hNe hBoth.1.symm
  rw [changepoint_answers, shifted_detectorStep,
    ← shifted_push memory reading]
  exact Changepoint.detectGases_of_not_mem hNot _

/- The result of a reading of the device, and the state. -/
theorem ofGas_answers
    (hGas : gas ∈ cpGasFields)
    (memory : Detectors)
    (policies : List ThresholdPolicy)
    (reading : JoinedReading) :
    ∃ front : List Gas,
      let result :=
        Changepoint.resultOf std reading.deviceUid
          reading.measuredAt gas
          (memory.shifted reading.deviceUid gas)
          (Changepoint.readWhole reading.deviceUid gas
            (run (detectorRead reading.deviceUid)
              (memory.push reading).window front))
      Changepoint.ofGas reading.deviceUid gas
          (answers std memory
            (.ingest policies reading)).changepoint =
          result.toList ∧
        (detectorStep std memory
            (.ingest policies reading)).shifted
              reading.deviceUid gas =
          (result.map Changepoint.Result.shift).getD
            (memory.shifted reading.deviceUid gas) := by
  rw [changepoint_answers, shifted_detectorStep,
    ← shifted_push memory reading]
  exact
    Changepoint.detectGases_of_mem (by decide) hGas _

/-
  In every run the state of a gas is its last verdict since
  the restart, and the events are the changes of verdict.
-/
theorem changepoint_log_faithful
    (hGas : gas ∈ cpGasFields)
    (ops : List DetectorOp) :
    (shiftLog std deviceUid gas ops).filterMap
          Changepoint.Result.event =
        (edges false
          ((shiftLog std deviceUid gas ops).map
            Changepoint.Result.isChange)).map
          Changepoint.Event.of ∧
      (run (detectorStep std) (.started []) ops).shifted
          deviceUid gas =
        ((shiftLog std deviceUid gas ops).map
          Changepoint.Result.isChange).getLastD false := by
  induction ops using List.reverseRecOn with
  | nil => exact ⟨rfl, rfl⟩
  | append_singleton ops op ih =>
      rcases ih with ⟨hEvents, hState⟩
      rw [run_append, run_cons, run_nil]
      cases op with
      | restart =>
          rw [shiftLog_restart]
          exact ⟨rfl, rfl⟩
      | ingest policies reading =>
          rw [shiftLog_ingest]
          by_cases hUid : reading.deviceUid = deviceUid
          · subst hUid
            rcases
              ofGas_answers hGas
                (run (detectorStep std) (.started []) ops)
                policies reading with
              ⟨front, hResult, hShift⟩
            rw [hResult, hShift, List.filterMap_append,
              List.map_append, edges_append,
              List.map_append, ← hState, hEvents,
              Changepoint.events_resultOf,
              Changepoint.shift_resultOf, getLastD_append,
              ← hState]
            exact ⟨rfl, rfl⟩
          · rcases
              ofGas_answers_of_ne hUid
                (run (detectorStep std) (.started []) ops)
                policies with
              ⟨hNone, hKept⟩
            rw [hNone, hKept, List.append_nil]
            exact ⟨hEvents, hState⟩

end Monitoring

end Icmp2

------------------------------------------------------------
-- Complete Readings
------------------------------------------------------------

namespace Icmp2

namespace Monitoring

open Library

variable {std : List ℚ → ℚ}
variable {deviceUid : String}
variable {gas : Gas}

/- Reads leave the buffers of a device in use as they are. -/
theorem ensure_run_detectorRead
    {window : WindowState}
    (hItems :
      ∀ gas, (window.buffers.ensure deviceUid gas).items ≠ [])
    (gases : List Gas) :
    (run (detectorRead deviceUid) window
        gases).buffers.ensure deviceUid =
      window.buffers.ensure deviceUid := by
  refine
    run_invariant
      (I := fun later : WindowState =>
        later.buffers.ensure deviceUid =
          window.buffers.ensure deviceUid)
      ?_ rfl gases
  intro later gas hLater
  rw [ensure_detectorRead_of_ne_nil, hLater]
  rw [hLater]
  exact hItems gas

@[simp] theorem window_push
    (memory : Detectors)
    (reading : JoinedReading) :
    (memory.push reading).window =
      { stored := memory.window.stored ++ [reading]
        buffers :=
          pushReading reading.deviceUid
            reading.toGasReading memory.window.buffers } :=
  rfl

/-
  STEP C puts the value of a reading behind the earlier
  values of its device since the restart.
-/
theorem items_ensure_push
    {ops : List DetectorOp}
    {reading : JoinedReading}
    (hOk :
      ∀ row ∈
          ingested reading.deviceUid
            (ops.map DetectorOp.window),
        row.qualityFlag = .ok)
    {current : ℚ}
    (hValue : reading.value gas = some current) :
    ((pushReading reading.deviceUid reading.toGasReading
        (run (detectorStep std) (.started [])
          ops).window.buffers).ensure reading.deviceUid
            gas).items =
      (gasValues
          (sinceRestart reading.deviceUid
            (ops.map DetectorOp.window)) gas ++
        [current]).rtake bufferSize := by
  have hBefore := items_ensure_run hOk gas
  rw [pushReading, Buffers.ensure_set_self, appendReading,
    hValue, window_run]
  change
    (((run windowStep .initial
        (ops.map DetectorOp.window)).buffers.ensure
          reading.deviceUid gas).items ++
      [current]).rtake bufferSize = _
  rw [hBefore, rtake_rtake_append]

/- The values of a device behind one more reading. -/
theorem gasValues_ingest
    (ops : List DetectorOp)
    (policies : List ThresholdPolicy)
    {reading : JoinedReading}
    {current : ℚ}
    (hValue : reading.value gas = some current) :
    gasValues
        (sinceRestart reading.deviceUid
          ((ops ++ [DetectorOp.ingest policies reading]).map
            DetectorOp.window)) gas =
      gasValues
          (sinceRestart reading.deviceUid
            (ops.map DetectorOp.window)) gas ++
        [current] := by
  rw [List.map_append, List.map_singleton]
  change
    gasValues
        (sinceRestart reading.deviceUid
          (_ ++ [WindowOp.ingest reading])) gas = _
  rw [sinceRestart_ingest, gasValues, List.filterMap_append,
    List.filterMap_cons, hValue]
  rfl

theorem gasValues_other
    (ops : List DetectorOp)
    (policies : List ThresholdPolicy)
    {reading : JoinedReading}
    (hNe : reading.deviceUid ≠ deviceUid) :
    sinceRestart deviceUid
        ((ops ++ [DetectorOp.ingest policies reading]).map
          DetectorOp.window) =
      sinceRestart deviceUid (ops.map DetectorOp.window) := by
  unfold sinceRestart
  rw [List.map_append, run_append]
  exact if_neg hNe

/- The values that a run of operations has ingested. -/
theorem ok_of_append
    {ops later : List DetectorOp}
    (hOk :
      ∀ row ∈
          ingested deviceUid
            ((ops ++ later).map DetectorOp.window),
        row.qualityFlag = .ok) :
    ∀ row ∈
        ingested deviceUid (ops.map DetectorOp.window),
      row.qualityFlag = .ok := by
  intro row hRow
  apply hOk
  rw [List.map_append, ingested, List.filterMap_append]
  exact List.mem_append_left _ hRow

/- A reading in a run of complete readings is complete. -/
theorem value_of_ok
    {ops : List DetectorOp}
    {policies : List ThresholdPolicy}
    {reading : JoinedReading}
    (hOk :
      ∀ row ∈
          ingested reading.deviceUid
            ((ops ++
              [DetectorOp.ingest policies reading]).map
                DetectorOp.window),
        row.qualityFlag = .ok)
    (gas : Gas) :
    (reading.value gas).isSome := by
  apply complete_ingested hOk
  rw [List.map_append, ingested, List.filterMap_append]
  apply List.mem_append_right
  change reading.toGasReading ∈ List.filterMap _ [_]
  simp [DetectorOp.window]

/-
  Whatever was read in between, STEP E sees the last values
  of the device since the restart.
-/
theorem readWhole_run
    {ops : List DetectorOp}
    {policies : List ThresholdPolicy}
    {reading : JoinedReading}
    (hOk :
      ∀ row ∈
          ingested reading.deviceUid
            ((ops ++
              [DetectorOp.ingest policies reading]).map
                DetectorOp.window),
        row.qualityFlag = .ok)
    (gas : Gas)
    (front : List Gas) :
    Changepoint.readWhole reading.deviceUid gas
        (run (detectorRead reading.deviceUid)
          ((run (detectorStep std) (.started [])
            ops).push reading).window front) =
      (gasValues
        (sinceRestart reading.deviceUid
          ((ops ++
            [DetectorOp.ingest policies reading]).map
              DetectorOp.window)) gas).rtake
        bufferSize := by
  have hPushed : ∀ gas,
      ((pushReading reading.deviceUid reading.toGasReading
          (run (detectorStep std) (.started [])
            ops).window.buffers).ensure reading.deviceUid
              gas).items =
        (gasValues
          (sinceRestart reading.deviceUid
            ((ops ++
              [DetectorOp.ingest policies reading]).map
                DetectorOp.window)) gas).rtake
          bufferSize := by
    intro gas
    rcases Option.isSome_iff_exists.mp
      (value_of_ok hOk gas) with ⟨current, hValue⟩
    rw [gasValues_ingest ops policies hValue]
    exact items_ensure_push (ok_of_append hOk) hValue
  have hItems : ∀ gas,
      ((pushReading reading.deviceUid reading.toGasReading
          (run (detectorStep std) (.started [])
            ops).window.buffers).ensure reading.deviceUid
              gas).items ≠ [] := by
    intro gas
    rw [pushReading, Buffers.ensure_set_self]
    exact
      items_appendReading_ne_nil _ (value_of_ok hOk gas)
  rw [window_push, Changepoint.readWhole,
    windowGet_of_ne_nil, ensure_run_detectorRead hItems,
    hPushed, Int.toNat_natCast, rtake_rtake, Nat.min_self]
  · rw [ensure_run_detectorRead hItems]
    exact hItems gas
  · decide

/-
  If the readings of a device are complete, STEP E judges
  every stretch of sixty values since the restart, once.
-/
theorem verdicts_shiftLog
    (hGas : gas ∈ cpGasFields)
    {ops : List DetectorOp}
    (hOk :
      ∀ row ∈
          ingested deviceUid (ops.map DetectorOp.window),
        row.qualityFlag = .ok) :
    (shiftLog std deviceUid gas ops).map
        Changepoint.Result.isChange =
      (wholeWindows bufferSize
        (gasValues
          (sinceRestart deviceUid
            (ops.map DetectorOp.window)) gas)).map
        (Changepoint.isChange std) := by
  induction ops using List.reverseRecOn with
  | nil => rfl
  | append_singleton ops op ih =>
      have hBefore := ih (ok_of_append hOk)
      cases op with
      | restart =>
          rw [shiftLog_restart, List.map_append]
          unfold sinceRestart
          rw [run_append]
          rfl
      | ingest policies reading =>
          rw [shiftLog_ingest, List.map_append, hBefore]
          by_cases hUid : reading.deviceUid = deviceUid
          · subst hUid
            rcases
              ofGas_answers hGas
                (run (detectorStep std) (.started []) ops)
                policies reading with
              ⟨front, hResult, _⟩
            rcases Option.isSome_iff_exists.mp
              (value_of_ok hOk gas) with ⟨current, hValue⟩
            rw [hResult, readWhole_run hOk,
              gasValues_ingest ops policies hValue,
              wholeWindows_concat (by decide),
              List.map_append, Changepoint.verdicts_resultOf,
              List.length_append, List.length_singleton]
          · rcases
              ofGas_answers_of_ne hUid
                (run (detectorStep std) (.started []) ops)
                policies with
              ⟨hNone, _⟩
            rw [hNone, gasValues_other ops policies hUid,
              List.map_nil, List.append_nil]

/-
  In a run of complete readings the events about a gas are
  the changes of the verdict over all stretches of sixty
  values since the restart; they alternate, and the state
  is the last verdict.
-/
theorem changepoint_events_exact
    (std : List ℚ → ℚ)
    (hGas : gas ∈ cpGasFields)
    (ops : List DetectorOp)
    (hOk :
      ∀ row ∈
          ingested deviceUid (ops.map DetectorOp.window),
        row.qualityFlag = .ok) :
    let verdicts :=
      (wholeWindows bufferSize
        (gasValues
          (sinceRestart deviceUid
            (ops.map DetectorOp.window)) gas)).map
        (Changepoint.isChange std)
    let events :=
      (shiftLog std deviceUid gas ops).filterMap
        Changepoint.Result.event
    (shiftLog std deviceUid gas ops).map
        Changepoint.Result.isChange = verdicts ∧
      events =
        (edges false verdicts).map Changepoint.Event.of ∧
      (Changepoint.Event.backToStable :: events).IsChain
        (· ≠ ·) ∧
      (run (detectorStep std) (.started []) ops).shifted
        deviceUid gas = verdicts.getLastD false := by
  intro verdicts events
  have hVerdicts :
      (shiftLog std deviceUid gas ops).map
        Changepoint.Result.isChange = verdicts :=
    verdicts_shiftLog hGas hOk
  rcases changepoint_log_faithful hGas ops with
    ⟨hEvents, hState⟩
  rw [hVerdicts] at hEvents hState
  refine ⟨hVerdicts, hEvents, ?_, hState⟩
  have hAlternate :
      ((false :: edges false verdicts).map
        Changepoint.Event.of).IsChain (· ≠ ·) :=
    List.isChain_map_of_isChain Changepoint.Event.of
      (fun _ _ => Changepoint.Event.of_injective.ne)
      (edges_alternate false verdicts)
  rw [List.map_cons, ← hEvents] at hAlternate
  exact hAlternate

/- `np.std`, to six places. -/
def stdToSixPlaces
    (values : List ℚ) :
    ℚ :=
  let squares :=
    values.map fun value => (value - mean values) ^ 2
  Nat.sqrt ⌊mean squares * 10 ^ 12⌋.toNat / 10 ^ 6

/- Readings of the values, one a minute from a time on. -/
def everyMinute
    (start : Nat) :
    List ℚ → List DetectorOp
  | [] => []
  | value :: values =>
      .ingest [] (evenReading (start * 60000000) value) ::
        everyMinute (start + 1) values

/-
  Three readings, a restart, and ninety readings of which
  the last sixty are high: of the 31 stretches since the
  restart all but the last one are a change.
-/
theorem changepoint_events_restart :
    let ops : List DetectorOp :=
      everyMinute 0 [7, 7, 7] ++ .restart ::
        everyMinute 3
          (List.replicate 30 0 ++ List.replicate 60 100)
    (shiftLog stdToSixPlaces "GAS-001" .co ops).map
          Changepoint.Result.isChange =
        List.replicate 30 true ++ [false] ∧
      (shiftLog stdToSixPlaces "GAS-001" .co
            ops).filterMap Changepoint.Result.event =
        [.changePoint, .backToStable] ∧
      (run (detectorStep stdToSixPlaces) (.started [])
        ops).shifted "GAS-001" .co = false := by
  intro ops
  have hExact :
      (shiftLog stdToSixPlaces "GAS-001" .co ops).map
            Changepoint.Result.isChange = _ ∧
        (shiftLog stdToSixPlaces "GAS-001" .co
            ops).filterMap Changepoint.Result.event = _ ∧
          _ :=
    changepoint_events_exact stdToSixPlaces (by decide) ops
      (by decide +kernel)
  have hVerdicts :
      (wholeWindows bufferSize
        (gasValues
          (sinceRestart "GAS-001"
            (ops.map DetectorOp.window)) .co)).map
          (Changepoint.isChange stdToSixPlaces) =
        List.replicate 30 true ++ [false] := by
    decide +kernel
  rw [hVerdicts] at hExact
  exact
    ⟨hExact.1, hExact.2.1.trans (by decide),
      hExact.2.2.2.trans (by decide)⟩

end Monitoring

end Icmp2

------------------------------------------------------------
-- Scores
------------------------------------------------------------

namespace Icmp2

namespace Monitoring

open Library

variable {std : List ℚ → ℚ}
variable {gas : Gas}

/- The earlier values are the window without its last. -/
theorem Zscore.historyOf_rtake
    {earlier : List ℚ}
    (current : ℚ)
    (hLong : ¬ earlier.length + 1 < Zscore.minSamples) :
    Zscore.historyOf
        ((earlier ++ [current]).rtake windowSize) =
      earlier.rtake (windowSize - 1) := by
  have hWindow :
      (earlier ++ [current]).rtake windowSize =
        earlier.rtake (windowSize - 1) ++ [current] :=
    List.rtake_concat_succ _ _ _
  rw [hWindow, Zscore.historyOf, if_pos,
    List.dropLast_concat]
  rw [List.length_append, length_rtake,
    List.length_singleton]
  unfold Zscore.minSamples at hLong
  unfold windowSize
  omega

/- Ten values are in a buffer if there have been ten. -/
theorem Zscore.isReady_of_items
    {buffers : Buffers}
    {deviceUid : String}
    {gasBuffers : GasBuffers}
    {earlier : List ℚ}
    {current : ℚ}
    (hBuffers : buffers deviceUid = some gasBuffers)
    (hItems :
      (gasBuffers gas).items =
        (earlier ++ [current]).rtake bufferSize) :
    Zscore.isReady buffers deviceUid gas
        Zscore.minSamples = true ↔
      ¬ earlier.length + 1 < Zscore.minSamples := by
  have hLength :
      (gasBuffers gas).items.length =
        min (30 * 2) (earlier.length + 1) := by
    rw [hItems, length_rtake, List.length_append,
      List.length_singleton]
    rfl
  rw [Zscore.isReady_iff]
  unfold Zscore.minSamples
  constructor
  · rintro ⟨_, hSome, hLong⟩
    cases hBuffers.symm.trans hSome
    omega
  · intro hLong
    exact ⟨gasBuffers, hBuffers, by omega⟩

/-
  What STEP D says about the value of a gas, by the values
  that came before it.
-/
def Zscore.verdict
    (std : List ℚ → ℚ)
    (exceeded : List Exceeded)
    (deviceUid : String)
    (measuredAt : Instant)
    (gas : Gas)
    (current : ℚ)
    (earlier : List ℚ) :
    Option Zscore.Result :=
  match Zscore.exceededLevel? exceeded gas with
  | some level =>
      some
        (Zscore.criticalResult deviceUid measuredAt gas
          current level)
  | none =>
      if earlier.length + 1 < Zscore.minSamples then
        none
      else
        some
          (Zscore.statResult std deviceUid measuredAt gas
            current (earlier.rtake (windowSize - 1)))

/- One gas, if its buffer ends with its value. -/
theorem Zscore.analyzeGas_eq_verdict
    (exceeded : List Exceeded)
    (reading : GasReading)
    {deviceUid : String}
    {memory : WindowState}
    {gasBuffers : GasBuffers}
    {earlier : List ℚ}
    {current : ℚ}
    (hValue : reading.value gas = some current)
    (hBuffers : memory.buffers deviceUid = some gasBuffers)
    (hItems :
      (gasBuffers gas).items =
        (earlier ++ [current]).rtake bufferSize) :
    (Zscore.analyzeGas std exceeded deviceUid reading memory
        gas).2 =
      Zscore.verdict std exceeded deviceUid
        reading.measuredAt gas current earlier := by
  have hEnsure :
      memory.buffers.ensure deviceUid = gasBuffers := by
    rw [Buffers.ensure, hBuffers, Option.getD_some]
  have hReady :=
    Zscore.isReady_of_items hBuffers hItems
  unfold Zscore.analyzeGas Zscore.verdict
  rw [hValue]
  cases Zscore.exceededLevel? exceeded gas with
  | some level => rfl
  | none =>
      by_cases hShort :
          earlier.length + 1 < Zscore.minSamples
      · simp only [if_pos hShort,
          if_neg (hReady.not.mpr (not_not.mpr hShort))]
      · have hItems' : (gasBuffers gas).items ≠ [] := by
          rw [hItems]
          change (earlier ++ [current]).rtake (59 + 1) ≠ []
          rw [List.rtake_concat_succ]
          exact List.concat_ne_nil _ _
        have hRead :
            (windowGet (memory.rowsOf deviceUid) deviceUid
                gas windowSize memory.buffers).1 =
              (earlier ++ [current]).rtake windowSize := by
          rw [windowGet_of_ne_nil, hEnsure, hItems,
            Int.toNat_natCast, rtake_rtake]
          · rfl
          · rw [hEnsure]
            exact hItems'
          · decide
        have hTwo :
            ¬ (earlier.rtake (windowSize - 1)).length <
              2 := by
          rw [length_rtake]
          unfold Zscore.minSamples at hShort
          unfold windowSize
          omega
        simp only [if_neg hShort,
          if_pos (hReady.mpr hShort), hRead,
          Zscore.historyOf_rtake current hShort,
          if_neg hTwo]

/-
  If the earlier readings of a device are complete, STEP D
  judges each value against the at most 29 values before it
  since the restart, and never against itself.
-/
theorem zscore_answers_exact
    (std : List ℚ → ℚ)
    (ops : List DetectorOp)
    (policies : List ThresholdPolicy)
    (reading : JoinedReading)
    (hOk :
      ∀ row ∈
          ingested reading.deviceUid
            (ops.map DetectorOp.window),
        row.qualityFlag = .ok) :
    (answers std (run (detectorStep std) (.started []) ops)
        (.ingest policies reading)).zscore =
      Gas.gasFields.filterMap fun gas =>
        (reading.value gas).bind fun current =>
          Zscore.verdict std
            (checkThresholdExceeded policies
              reading.toGasReading "실시간 관제")
            reading.deviceUid reading.measuredAt gas current
            (gasValues
              (sinceRestart reading.deviceUid
                (ops.map DetectorOp.window)) gas) := by
  rw [answers, ingestReading_eq, Zscore.analyze,
    Zscore.analyzeGases_eq]
  apply List.filterMap_congr
  intro gas _
  cases hValue : reading.value gas with
  | none =>
      simp only [Zscore.analyzeGas, hValue,
        Option.bind_none]
  | some current =>
      have hItems :
          ((pushReading reading.deviceUid
              reading.toGasReading
              (run (detectorStep std) (.started [])
                ops).window.buffers).ensure
                  reading.deviceUid gas).items = _ :=
        items_ensure_push hOk hValue
      refine
        Zscore.analyzeGas_eq_verdict _ _ hValue ?_ hItems
      rw [window_push, pushReading, Buffers.ensure_set_self]
      exact if_pos rfl

/-
  The tenth of ten equal readings after a restart, with the
  limits that hold without a policy.
-/
theorem zscore_answers_tenth :
    let ops : List DetectorOp :=
      .ingest [] (evenReading 0 7) :: .restart ::
        List.replicate 9 (.ingest [] (evenReading 0 5))
    (answers (fun _ => 0)
        (run (detectorStep fun _ => 0) (.started []) ops)
        (.ingest [] (evenReading 60000000 5))).zscore.map
          (fun result => (result.mean, result.finalStatus)) =
      List.replicate 3 (some 5, .normal) ++
        List.replicate 4 (none, .critical) ++
        [(some 5, .normal), (none, .critical)] := by
  intro ops
  rw [zscore_answers_exact (fun _ => 0) ops []
    (evenReading 60000000 5) (by decide)]
  decide +kernel

end Monitoring

end Icmp2
