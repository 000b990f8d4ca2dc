import Icmp2.Text
import Mathlib.Data.Fintype.Defs

/-
  Gas sensors and their readings.

  Main definitions include:
    * `Icmp2.Monitoring.Gas`
    * `Icmp2.Monitoring.Device`
    * `Icmp2.Monitoring.GasReading`
    * `Icmp2.Monitoring.GasReading.getattr`
    * `Icmp2.Monitoring.GasReading.withValue`
    * `Icmp2.Monitoring.qualityFlag`
-/

------------------------------------------------------------
-- Gases
------------------------------------------------------------

namespace Icmp2

namespace Monitoring

/- Instants, in microseconds. -/
abbrev Instant : Type :=
  Int

/- The nine gas fields of a reading. -/
inductive Gas where
  | co
  | h2s
  | co2
  | o2
  | no2
  | so2
  | o3
  | nh3
  | voc
  deriving DecidableEq, Repr

namespace Gas

/- The field name of a gas. -/
def name : Gas → String
  | co => "co"
  | h2s => "h2s"
  | co2 => "co2"
  | o2 => "o2"
  | no2 => "no2"
  | so2 => "so2"
  | o3 => "o3"
  | nh3 => "nh3"
  | voc => "voc"

/- `GAS_FIELDS`, in order. -/
def gasFields : List Gas :=
  [co, h2s, co2, o2, no2, so2, o3, nh3, voc]

/- The gas with the given field name. -/
def ofName?
    (text : String) :
    Option Gas :=
  gasFields.find? fun gas => gas.name = text

@[simp] theorem ofName?_name
    (gas : Gas) :
    ofName? gas.name = some gas := by
  cases gas <;> decide

theorem name_injective :
    Function.Injective name := by
  intro left right hName
  have hFound := ofName?_name left
  rw [hName, ofName?_name] at hFound
  exact (Option.some.inj hFound).symm

@[simp] theorem mem_gasFields
    (gas : Gas) :
    gas ∈ gasFields := by
  cases gas <;> decide

instance : Fintype Gas where
  elems := ⟨gasFields, by decide⟩
  complete := mem_gasFields

end Gas

end Monitoring

end Icmp2

------------------------------------------------------------
-- Devices and Readings
------------------------------------------------------------

namespace Icmp2

namespace Monitoring

/- The columns of a device that the pipeline reads. -/
structure Device where
  id : Nat
  deviceUid : String
  facility : Option Nat
  isActive : Bool
  status : String
  deriving DecidableEq, Repr

inductive QualityFlag where
  | ok
  | missing
  | partly
  deriving DecidableEq, Repr

/- One stored gas reading. -/
structure GasReading where
  id : Nat
  device : Nat
  value : Gas → Option ℚ
  measuredAt : Instant
  qualityFlag : QualityFlag

namespace GasReading

/-
  `getattr(reading, name, None)` for the numeric columns:
  the gas fields, the primary key and the device key.
-/
def getattr
    (reading : GasReading)
    (name : String) :
    Option ℚ :=
  match Gas.ofName? name with
  | some gas => reading.value gas
  | none =>
      if name = "id" ∨ name = "pk" then
        some reading.id
      else if name = "device_id" then
        some reading.device
      else
        none

@[simp] theorem getattr_name
    (reading : GasReading)
    (gas : Gas) :
    reading.getattr gas.name = reading.value gas := by
  simp [getattr]

/- The reading with another value for one gas. -/
def withValue
    (reading : GasReading)
    (gas : Gas)
    (value : ℚ) :
    GasReading :=
  { reading with
    value := Function.update reading.value gas (some value) }

/- No other attribute changes. -/
theorem getattr_withValue_of_ne
    (reading : GasReading)
    {gas : Gas}
    (value : ℚ)
    {name : String}
    (hName : name ≠ gas.name) :
    (reading.withValue gas value).getattr name =
      reading.getattr name := by
  unfold getattr withValue
  cases hFound : Gas.ofName? name with
  | none => rfl
  | some other =>
      refine Function.update_of_ne ?_ _ _
      rintro rfl
      have hSame := List.find?_some hFound
      exact hName (of_decide_eq_true hSame).symm

end GasReading

/- A reading in which one gas only was measured. -/
def soleReading
    (gas : Gas)
    (value : ℚ) :
    GasReading where
  id := 1
  device := 1
  value := fun other =>
    if other = gas then some value else none
  measuredAt := 0
  qualityFlag := .partly

/- The flag that ingestion computes from absent values. -/
def qualityFlag
    (value : Gas → Option ℚ) :
    QualityFlag :=
  let missingCount :=
    (Gas.gasFields.filter
      fun gas => (value gas).isNone).length
  if missingCount = Gas.gasFields.length then
    .missing
  else if missingCount > 0 then
    .partly
  else
    .ok

/- A flag of `ok` says that every gas was measured. -/
theorem qualityFlag_eq_ok_iff
    (value : Gas → Option ℚ) :
    qualityFlag value = .ok ↔
      ∀ gas, (value gas).isSome := by
  have hFilter :
      (Gas.gasFields.filter
          fun gas => (value gas).isNone).length = 0 ↔
        ∀ gas, (value gas).isSome := by
    rw [List.length_eq_zero_iff, List.filter_eq_nil_iff]
    simp [Option.isSome_iff_ne_none]
  rw [← hFilter]
  simp only [qualityFlag]
  by_cases hZero :
      (Gas.gasFields.filter
        fun gas => (value gas).isNone).length = 0
  · rw [hZero]
    decide
  · have hPos := Nat.pos_of_ne_zero hZero
    rw [if_pos hPos]
    constructor
    · intro hOk
      split at hOk
      · cases hOk
      · cases hOk
    · intro hNone
      exact absurd hNone hZero

end Monitoring

end Icmp2
