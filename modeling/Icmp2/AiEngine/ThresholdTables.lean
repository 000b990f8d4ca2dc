import Icmp2.AiEngine.Prediction
import Icmp2.Library.Action
import Mathlib.Order.WithBotTop

/-
  Threshold tables as they are loaded and validated.

  Main definitions include:
    * `Icmp2.AiEngine.Bounds`
    * `Icmp2.AiEngine.Yaml`
    * `Icmp2.AiEngine.Loader.validate`
    * `Icmp2.AiEngine.newClassifier`
    * `Icmp2.AiEngine.evaluateEntry`
    * `Icmp2.AiEngine.Classifies`

  Main theorems include:
    * `Icmp2.AiEngine.Bounds.evaluate_eq_level`
    * `Icmp2.AiEngine.exists_bounds_of_validateEntry`
    * `Icmp2.AiEngine.accepted_tables_classify`

  A validated entry stands for bounds in the order that its
  direction asks for, and the levels of such bounds rise
  with the danger.
-/

------------------------------------------------------------
-- Ordered Bounds
------------------------------------------------------------

namespace Icmp2

namespace AiEngine

/- Numbers with the two infinities. -/
abbrev Extended : Type :=
  WithBotTop ℚ

/- Two tests, and the one for danger comes first. -/
def graded
    (dangerous cautious : Prop)
    [Decidable dangerous]
    [Decidable cautious] :
    RiskLevel :=
  if dangerous then .danger
  else if cautious then .caution
  else .normal

/- The thresholds of a sensor, in the order of danger. -/
inductive Bounds where
  | high
      (caution danger : Extended)
      (ordered : caution < danger)
  | low
      (caution danger : Extended)
      (ordered : danger < caution)
  | both
      (cautionHigh dangerHigh : Extended)
      (cautionLow dangerLow : Extended)
      (upper : cautionHigh < dangerHigh)
      (lower : dangerLow < cautionLow)
      (apart : cautionLow < cautionHigh)

namespace Bounds

def direction : Bounds → Direction
  | high _ _ _ => .high
  | low _ _ _ => .low
  | both _ _ _ _ _ _ _ => .both

/- The level of a value. -/
def level : Bounds → Extended → RiskLevel
  | high caution danger _, value =>
      graded (danger ≤ value) (caution ≤ value)
  | low caution danger _, value =>
      graded (value ≤ danger) (value ≤ caution)
  | both cautionHigh dangerHigh cautionLow dangerLow _ _ _,
      value =>
      graded (dangerHigh ≤ value ∨ value ≤ dangerLow)
        (cautionHigh ≤ value ∨ value ≤ cautionLow)

end Bounds

/- How severe a level is; what is unknown is not graded. -/
def RiskLevel.severity : RiskLevel → Nat
  | normal => 0
  | caution => 1
  | danger => 2
  | unknown => 0

section Levels

variable {caution danger value other : Extended}

theorem graded_ne_unknown
    (dangerous cautious : Prop)
    [Decidable dangerous]
    [Decidable cautious] :
    graded dangerous cautious ≠ .unknown := by
  unfold graded
  split_ifs <;> decide

/- Tests that are met more often grade higher. -/
theorem severity_graded_le
    {dangerous cautious : Prop}
    {dangerousLater cautiousLater : Prop}
    [Decidable dangerous]
    [Decidable cautious]
    [Decidable dangerousLater]
    [Decidable cautiousLater]
    (hDanger : dangerous → dangerousLater)
    (hCaution : cautious → cautiousLater) :
    (graded dangerous cautious).severity ≤
      (graded dangerousLater cautiousLater).severity := by
  unfold graded
  by_cases hFirst : dangerous
  · rw [if_pos hFirst, if_pos (hDanger hFirst)]
  · rw [if_neg hFirst]
    by_cases hSecond : cautious
    · rw [if_pos hSecond, if_pos (hCaution hSecond)]
      split_ifs <;> decide
    · rw [if_neg hSecond]
      exact Nat.zero_le _

namespace Bounds

theorem level_ne_unknown
    (bounds : Bounds)
    (value : Extended) :
    bounds.level value ≠ .unknown := by
  cases bounds with
  | high caution danger ordered =>
      exact graded_ne_unknown _ _
  | low caution danger ordered =>
      exact graded_ne_unknown _ _
  | both cautionHigh dangerHigh cautionLow dangerLow =>
      exact graded_ne_unknown _ _

theorem severity_high_le
    (ordered : caution < danger)
    (hLe : value ≤ other) :
    ((high caution danger ordered).level value).severity ≤
      ((high caution danger ordered).level
        other).severity :=
  severity_graded_le
    (fun hDanger => hDanger.trans hLe)
    (fun hCaution => hCaution.trans hLe)

theorem severity_low_le
    (ordered : danger < caution)
    (hLe : other ≤ value) :
    ((low caution danger ordered).level value).severity ≤
      ((low caution danger ordered).level
        other).severity :=
  severity_graded_le hLe.trans hLe.trans

variable {cautionHigh dangerHigh : Extended}
variable {cautionLow dangerLow : Extended}
variable {upper : cautionHigh < dangerHigh}
variable {lower : dangerLow < cautionLow}
variable {apart : cautionLow < cautionHigh}

/- Above the lower bounds only the upper ones count. -/
theorem severity_both_le_above
    (hAbove : cautionLow < value)
    (hLe : value ≤ other) :
    ((both cautionHigh dangerHigh cautionLow dangerLow upper
        lower apart).level value).severity ≤
      ((both cautionHigh dangerHigh cautionLow dangerLow
        upper lower apart).level other).severity := by
  apply severity_graded_le
  · rintro (hHigh | hLow)
    · exact Or.inl (hHigh.trans hLe)
    · exact absurd hLow (lower.trans hAbove).not_ge
  · rintro (hHigh | hLow)
    · exact Or.inl (hHigh.trans hLe)
    · exact absurd hLow hAbove.not_ge

/- Below the upper bounds only the lower ones count. -/
theorem severity_both_le_below
    (hBelow : value < cautionHigh)
    (hLe : other ≤ value) :
    ((both cautionHigh dangerHigh cautionLow dangerLow upper
        lower apart).level value).severity ≤
      ((both cautionHigh dangerHigh cautionLow dangerLow
        upper lower apart).level other).severity := by
  apply severity_graded_le
  · rintro (hHigh | hLow)
    · exact absurd hHigh (hBelow.trans upper).not_ge
    · exact Or.inr (hLe.trans hLow)
  · rintro (hHigh | hLow)
    · exact absurd hHigh hBelow.not_ge
    · exact Or.inr (hLe.trans hLow)

end Bounds

end Levels

end AiEngine

end Icmp2

------------------------------------------------------------
-- Typed Entries
------------------------------------------------------------

namespace Icmp2

namespace AiEngine

/- The number that a typed entry holds. -/
def HoldsFinite
    (held : Option ℚ)
    (number : Extended) :
    Prop :=
  ∃ value : ℚ, held = some value ∧ number = value

/- The bounds of an entry of the prediction subsystem. -/
def ThresholdInfo.Has
    (info : ThresholdInfo) :
    Bounds → Prop
  | .high caution danger _ =>
      info.direction = .high ∧
        HoldsFinite info.caution caution ∧
          HoldsFinite info.danger danger
  | .low caution danger _ =>
      info.direction = .low ∧
        HoldsFinite info.caution caution ∧
          HoldsFinite info.danger danger
  | .both cautionHigh dangerHigh cautionLow dangerLow _ _ _ =>
      info.direction = .both ∧
        HoldsFinite info.cautionHigh cautionHigh ∧
        HoldsFinite info.dangerHigh dangerHigh ∧
          HoldsFinite info.cautionLow cautionLow ∧
          HoldsFinite info.dangerLow dangerLow

/- The subsystem grades by its bounds. -/
theorem Bounds.evaluate_eq_level
    {info : ThresholdInfo}
    {bounds : Bounds}
    (hHas : info.Has bounds)
    (value : ℚ) :
    evaluate info value = bounds.level (value : Extended) := by
  cases bounds with
  | high caution danger ordered =>
      rcases hHas with
        ⟨hDirection, ⟨c, hCaution, rfl⟩, d, hDanger, rfl⟩
      simp only [evaluate, hDirection, hCaution, hDanger,
        level, graded, WithBotTop.coe_le_coe, ge_iff_le]
  | low caution danger ordered =>
      rcases hHas with
        ⟨hDirection, ⟨c, hCaution, rfl⟩, d, hDanger, rfl⟩
      simp only [evaluate, hDirection, hCaution, hDanger,
        level, graded, WithBotTop.coe_le_coe]
  | both cHigh dHigh cLow dLow upper lower apart =>
      rcases hHas with
        ⟨hDirection, ⟨ch, hCHigh, rfl⟩, ⟨dh, hDHigh, rfl⟩,
          ⟨cl, hCLow, rfl⟩, dl, hDLow, rfl⟩
      simp only [evaluate, hDirection, hCHigh, hDHigh, hCLow,
        hDLow, level, graded, WithBotTop.coe_le_coe, ge_iff_le]

end AiEngine

end Icmp2

------------------------------------------------------------
-- Validation
------------------------------------------------------------

namespace Icmp2

namespace AiEngine

/- A number of a table; `nan` is below and above nothing. -/
inductive Number where
  | nan
  | real (value : Extended)
  deriving DecidableEq

def Number.lt : Number → Number → Bool
  | real left, real right => left < right
  | _, _ => false

/- What a table is parsed to. -/
inductive Yaml where
  | null
  | bool (value : Bool)
  | number (value : Number)
  | text (value : String)
  | list (items : List Yaml)
  | mapping (entries : List (Yaml × Yaml))
  | other (typeName : String)

/- The number under `isinstance(value, (int, float))`. -/
def Yaml.number? : Yaml → Option Number
  | bool value => some (.real (if value then 1 else 0))
  | number value => some value
  | _ => none

def Yaml.isText : Yaml → String → Bool
  | text value, key => value = key
  | _, _ => false

/- `entries.get(key)`; none if the key is missing. -/
def valueAt?
    (entries : List (Yaml × Yaml))
    (key : String) :
    Option Yaml :=
  (entries.find? fun entry => entry.1.isText key).map
    Prod.snd

/- `float` of a number; it keeps the order as it rounds. -/
structure FloatConversion where
  round? : Extended → Option Extended
  mono :
    ∀ x y a b,
      round? x = some a → round? y = some b →
        x ≤ y → a ≤ b

inductive TableError where
  | valueError (text : String)
  | typeError
  | attributeError
  | keyError
  | overflowError
  deriving DecidableEq, Repr

/- How values come out in the text of an error. -/
structure Rendering where
  repr : Yaml → String
  typeName : Yaml → String
  float : Number → String
  names : List String → String
  allowed : String

/- Where the texts of the two loaders differ. -/
structure Wording where
  missing : String → String → String
  noKey : String
  lowAfter : String
  bothHigh : String
  bothLow : String
  bothOverlap : String
  bothAfter : String

def FloatConversion.number
    (float : FloatConversion) :
    Number →
    Except TableError Number
  | .nan => .ok .nan
  | .real value =>
      match float.round? value with
      | some rounded => .ok (.real rounded)
      | none => .error .overflowError

def quoted
    (name : String) :
    String :=
  "'" ++ name ++ "'"

/- The value under `direction`, if it is an allowed one. -/
def directionOf?
    (info : List (Yaml × Yaml)) :
    Option Direction :=
  match valueAt? info "direction" with
  | some (.text "high") => some .high
  | some (.text "low") => some .low
  | some (.text "both") => some .both
  | _ => none

/- The check of a direction; lists cannot be looked up. -/
def checkDirection
    (rendering : Rendering)
    (owner : String)
    (info : List (Yaml × Yaml)) :
    Except TableError Direction :=
  match directionOf? info with
  | some direction => .ok direction
  | none =>
      match (valueAt? info "direction").getD .null with
      | .list _ | .mapping _ => .error .typeError
      | value =>
          .error
            (.valueError
              (owner ++ "의 direction이 잘못됨: " ++
                rendering.repr value ++ ". 허용 값: " ++
                rendering.allowed))

/- A threshold that has to be there, and to be a number. -/
def requireNumber
    (wording : Wording)
    (rendering : Rendering)
    (sensorType : String)
    (direction : Direction)
    (info : List (Yaml × Yaml))
    (key : String) :
    Except TableError Number :=
  match valueAt? info key with
  | none =>
      .error
        (.valueError
          (quoted sensorType ++ "(" ++ direction.name ++
            ")에 " ++ quoted key ++ wording.noKey))
  | some value =>
      match value.number? with
      | some number => .ok number
      | none =>
          .error
            (.valueError
              (quoted sensorType ++ "의 " ++ quoted key ++
                "는 수치여야 함. 받은 타입: " ++
                rendering.typeName value))

/- The text of an order that two thresholds do not keep. -/
def orderText
    (rendering : Rendering)
    (owner : String)
    (first : String)
    (left : Number)
    (sign second : String)
    (right : Number)
    (after : String) :
    String :=
  owner ++ first ++ "(" ++ rendering.float left ++ ") " ++
    sign ++ " " ++ second ++ "(" ++ rendering.float right ++
    ")" ++ after

/- `_validate_high_low`. -/
def validateHighLow
    (wording : Wording)
    (rendering : Rendering)
    (float : FloatConversion)
    (sensorType : String)
    (info : List (Yaml × Yaml))
    (direction : Direction) :
    Except TableError Unit := do
  let require :=
    requireNumber wording rendering sensorType direction info
  let caution ← require "caution"
  let danger ← require "danger"
  let caution ← float.number caution
  let danger ← float.number danger
  if direction = .high then
    if caution.lt danger then
      return ()
    else
      throw
        (.valueError
          (orderText rendering
            (quoted sensorType ++ "(high)의 임계 순서 위반: ")
            "caution" caution "<" "danger" danger
            " 이어야 함"))
  else
    if danger.lt caution then
      return ()
    else
      throw
        (.valueError
          (orderText rendering
            (quoted sensorType ++ "(low)의 임계 순서 위반: ")
            "caution" caution ">" "danger" danger
            wording.lowAfter))

/- `_validate_both`. -/
def validateBoth
    (wording : Wording)
    (rendering : Rendering)
    (float : FloatConversion)
    (sensorType : String)
    (info : List (Yaml × Yaml)) :
    Except TableError Unit := do
  let require :=
    requireNumber wording rendering sensorType .both info
  let owner := quoted sensorType ++ "(both)의 "
  let cHigh ← require "caution_high"
  let dHigh ← require "danger_high"
  let cLow ← require "caution_low"
  let dLow ← require "danger_low"
  let cHigh ← float.number cHigh
  let dHigh ← float.number dHigh
  let cLow ← float.number cLow
  let dLow ← float.number dLow
  if ¬ cHigh.lt dHigh then
    throw
      (.valueError
        (orderText rendering (owner ++ wording.bothHigh)
          "caution_high" cHigh "<" "danger_high" dHigh
          wording.bothAfter))
  else if ¬ dLow.lt cLow then
    throw
      (.valueError
        (orderText rendering (owner ++ wording.bothLow)
          "caution_low" cLow ">" "danger_low" dLow
          wording.bothAfter))
  else if ¬ cLow.lt cHigh then
    throw
      (.valueError
        (orderText rendering (owner ++ wording.bothOverlap)
          "caution_low" cLow "<" "caution_high" cHigh
          wording.bothAfter))
  else
    return ()

/- The body of the loop over the sensors. -/
def validateEntry
    (wording : Wording)
    (rendering : Rendering)
    (float : FloatConversion)
    (thresholds : List (Yaml × Yaml))
    (sensorType : String) :
    Except TableError Unit :=
  match valueAt? thresholds sensorType with
  | none => .error .keyError
  | some (.mapping info) => do
      let direction ←
        checkDirection rendering (quoted sensorType) info
      if direction = .both then
        validateBoth wording rendering float sensorType info
      else
        validateHighLow wording rendering float sensorType
          info direction
  | some info =>
      .error
        (.valueError
          (quoted sensorType ++
            "의 임계 정보는 dict여야 함. 받은 타입: " ++
            rendering.typeName info))

/- The validation of a table, for a list of sensors. -/
def validateThresholds
    (wording : Wording)
    (sensorTypes : List String)
    (rendering : Rendering)
    (float : FloatConversion) :
    Yaml →
    Except TableError Unit
  | .mapping thresholds =>
      let missing :=
        sensorTypes.filter fun sensorType =>
          (valueAt? thresholds sensorType).isNone
      if missing ≠ [] then
        .error
          (.valueError
            (wording.missing (rendering.names missing)
              (rendering.names sensorTypes)))
      else
        sensorTypes.forM
          (validateEntry wording rendering float thresholds)
  | thresholds =>
      .error
        (.valueError
          ("thresholds는 dict여야 함. 받은 타입: " ++
            rendering.typeName thresholds))

/- `GAS_SENSOR_TYPES`. -/
def gasSensorTypes : List String :=
  ["co", "h2s", "co2", "o2", "no2", "so2", "o3", "nh3",
    "voc"]

/- `POWER_SENSOR_TYPES`. -/
def powerSensorTypes : List String :=
  ["voltage", "current", "power"]

def gasWording : Wording where
  missing := fun missing required =>
    "가스 9종 중 누락된 항목: " ++ missing ++
      ". 필수 9종: " ++ required
  noKey := " 키가 없음"
  lowAfter := " 이어야 함 (낮을수록 위험)"
  bothHigh := "고측 임계 순서 위반: "
  bothLow := "저측 임계 순서 위반: "
  bothOverlap := "고저 임계 범위 겹침: "
  bothAfter := " 이어야 함"

def powerWording : Wording where
  missing := fun missing required =>
    "전력 3종 중 누락된 항목: " ++ missing ++
      ". 필수 3종: " ++ required
  noKey := " 키 없음"
  lowAfter := " 이어야 함"
  bothHigh := "고측 순서 위반: "
  bothLow := "저측 순서 위반: "
  bothOverlap := "고저 범위 겹침: "
  bothAfter := ""

/- `validate_gas_thresholds`. -/
def validateGasThresholds :
    Rendering → FloatConversion → Yaml →
      Except TableError Unit :=
  validateThresholds gasWording gasSensorTypes

/- `validate_power_thresholds`. -/
def validatePowerThresholds :
    Rendering → FloatConversion → Yaml →
      Except TableError Unit :=
  validateThresholds powerWording powerSensorTypes

end AiEngine

end Icmp2

------------------------------------------------------------
-- The Classifier
------------------------------------------------------------

namespace Icmp2

namespace AiEngine

/- A threshold that is there, and is not null. -/
def threshold?
    (info : List (Yaml × Yaml))
    (key : String) :
    Option Yaml :=
  (valueAt? info key).filter fun
    | .null => false
    | _ => true

/- `threshold <= value`. -/
def thresholdLe
    (threshold : Yaml)
    (value : ℚ) :
    Except TableError Bool :=
  match threshold.number? with
  | some .nan => .ok false
  | some (.real number) => .ok (number ≤ (value : Extended))
  | none => .error .typeError

/- `value <= threshold`. -/
def leThreshold
    (value : ℚ)
    (threshold : Yaml) :
    Except TableError Bool :=
  match threshold.number? with
  | some .nan => .ok false
  | some (.real number) => .ok ((value : Extended) ≤ number)
  | none => .error .typeError

/- `first or second`, where the second may not be asked. -/
def orAsk
    (first second : Except TableError Bool) :
    Except TableError Bool := do
  if ← first then return true else second

/- The first test that is met decides. -/
def gradeBy
    (dangerous cautious : Except TableError Bool) :
    Except TableError RiskLevel := do
  if ← dangerous then
    return .danger
  else if ← cautious then
    return .caution
  else
    return .normal

/- `_evaluate`, on an entry as it was parsed. -/
def evaluateEntry
    (info : List (Yaml × Yaml))
    (value : ℚ) :
    Except TableError RiskLevel :=
  match valueAt? info "direction" with
  | none => .error .keyError
  | some (.text "high") =>
      match threshold? info "caution",
          threshold? info "danger" with
      | some caution, some danger =>
          gradeBy (thresholdLe danger value)
            (thresholdLe caution value)
      | _, _ => .ok .unknown
  | some (.text "low") =>
      match threshold? info "caution",
          threshold? info "danger" with
      | some caution, some danger =>
          gradeBy (leThreshold value danger)
            (leThreshold value caution)
      | _, _ => .ok .unknown
  | some _ =>
      match threshold? info "caution_high",
          threshold? info "danger_high",
          threshold? info "caution_low",
          threshold? info "danger_low" with
      | some cHigh, some dHigh, some cLow, some dLow =>
          gradeBy
            (orAsk (thresholdLe dHigh value)
              (leThreshold value dLow))
            (orAsk (thresholdLe cHigh value)
              (leThreshold value cLow))
      | _, _, _, _ => .ok .unknown

/- `ThresholdClassifier`; it keeps a copy of its table. -/
structure ThresholdClassifier where
  table : List (Yaml × Yaml)

/- The constructor, which looks at every entry. -/
def newClassifier
    (rendering : Rendering) :
    Yaml →
    Except TableError ThresholdClassifier
  | .mapping table => do
      table.forM fun entry =>
        match entry.2 with
        | .mapping info => do
            let _ ←
              checkDirection rendering
                ("sensor_type " ++ rendering.repr entry.1)
                info
        | _ => .error .attributeError
      return ⟨table⟩
  | _ => .error .attributeError

/- `classify_value`. -/
def ThresholdClassifier.classifyValue
    (classifier : ThresholdClassifier)
    (sensorType : String)
    (value : ℚ) :
    Except TableError RiskLevel :=
  match valueAt? classifier.table sensorType with
  | none => .ok .unknown
  | some (.mapping info) => evaluateEntry info value
  | some _ => .error .typeError

end AiEngine

end Icmp2

------------------------------------------------------------
-- Validated Entries
------------------------------------------------------------

namespace Icmp2

namespace AiEngine

open Library

variable {info : List (Yaml × Yaml)}
variable {key : String}

/- The key holds the given number. -/
def HoldsNumber
    (info : List (Yaml × Yaml))
    (key : String)
    (value : Extended) :
    Prop :=
  ∃ held,
    valueAt? info key = some held ∧
      held.number? = some (.real value)

theorem of_requireNumber
    {wording : Wording}
    {rendering : Rendering}
    {sensorType : String}
    {direction : Direction}
    {number : Number}
    (hOk :
      requireNumber wording rendering sensorType direction
        info key = .ok number) :
    ∃ held,
      valueAt? info key = some held ∧
        held.number? = some number := by
  unfold requireNumber at hOk
  cases hEntry : valueAt? info key with
  | none =>
      rw [hEntry] at hOk
      cases hOk
  | some held =>
      rw [hEntry] at hOk
      cases hNumber : held.number? with
      | none =>
          simp only [hNumber] at hOk
          cases hOk
      | some found =>
          simp only [hNumber] at hOk
          cases hOk
          exact ⟨held, rfl, hNumber⟩

/- Numbers in order after the conversion were so before. -/
theorem FloatConversion.lt_of_lt
    (float : FloatConversion)
    {left right leftFloat rightFloat : Number}
    (hLeft : float.number left = .ok leftFloat)
    (hRight : float.number right = .ok rightFloat)
    (hLt : leftFloat.lt rightFloat = true) :
    ∃ x y, left = .real x ∧ right = .real y ∧ x < y := by
  cases left with
  | nan =>
      cases hLeft
      cases hLt
  | real x =>
      cases right with
      | nan =>
          cases hRight
          cases leftFloat with
          | nan => cases hLt
          | real a => cases hLt
      | real y =>
          refine ⟨x, y, rfl, rfl, ?_⟩
          unfold FloatConversion.number at hLeft hRight
          cases hX : float.round? x with
          | none =>
              simp only [hX] at hLeft
              cases hLeft
          | some a =>
              cases hY : float.round? y with
              | none =>
                  simp only [hY] at hRight
                  cases hRight
              | some b =>
                  simp only [hX] at hLeft
                  simp only [hY] at hRight
                  cases hLeft
                  cases hRight
                  by_contra hNot
                  have hGe :=
                    float.mono y x b a hY hX
                      (not_lt.mp hNot)
                  exact
                    absurd (of_decide_eq_true hLt) hGe.not_gt

/- The entry holds the bounds under the keys it needs. -/
def Reads
    (info : List (Yaml × Yaml)) :
    Bounds → Prop
  | .high caution danger _ =>
      directionOf? info = some .high ∧
        HoldsNumber info "caution" caution ∧
          HoldsNumber info "danger" danger
  | .low caution danger _ =>
      directionOf? info = some .low ∧
        HoldsNumber info "caution" caution ∧
          HoldsNumber info "danger" danger
  | .both cautionHigh dangerHigh cautionLow dangerLow _ _ _ =>
      directionOf? info = some .both ∧
        HoldsNumber info "caution_high" cautionHigh ∧
        HoldsNumber info "danger_high" dangerHigh ∧
          HoldsNumber info "caution_low" cautionLow ∧
          HoldsNumber info "danger_low" dangerLow

theorem directionOf?_of_reads
    {bounds : Bounds}
    (hReads : Reads info bounds) :
    directionOf? info = some bounds.direction := by
  cases bounds with
  | high caution danger => exact hReads.1
  | low caution danger => exact hReads.1
  | both cHigh dHigh cLow dLow => exact hReads.1

/- Two thresholds that were read and are in order. -/
theorem holdsNumber_pair
    {float : FloatConversion}
    {wording : Wording}
    {rendering : Rendering}
    {sensorType leftKey rightKey : String}
    {direction : Direction}
    {left right leftFloat rightFloat : Number}
    (hLeft :
      requireNumber wording rendering sensorType direction
        info leftKey = .ok left)
    (hRight :
      requireNumber wording rendering sensorType direction
        info rightKey = .ok right)
    (hLeftFloat : float.number left = .ok leftFloat)
    (hRightFloat : float.number right = .ok rightFloat)
    (hLt : leftFloat.lt rightFloat = true) :
    ∃ x y,
      HoldsNumber info leftKey x ∧
        HoldsNumber info rightKey y ∧
          left = .real x ∧ right = .real y ∧ x < y := by
  rcases float.lt_of_lt hLeftFloat hRightFloat hLt with
    ⟨x, y, rfl, rfl, hOrder⟩
  exact
    ⟨x, y, of_requireNumber hLeft, of_requireNumber hRight,
      rfl, rfl, hOrder⟩

theorem reads_of_validateHighLow
    {wording : Wording}
    {rendering : Rendering}
    {float : FloatConversion}
    {sensorType : String}
    {direction : Direction}
    (hDirection : directionOf? info = some direction)
    (hNotBoth : direction ≠ .both)
    (hOk :
      validateHighLow wording rendering float sensorType info
        direction = .ok ()) :
    ∃ bounds, Reads info bounds := by
  unfold validateHighLow at hOk
  rcases of_except_bind_ok hOk with ⟨caution, hCaution, hOk⟩
  rcases of_except_bind_ok hOk with ⟨danger, hDanger, hOk⟩
  rcases of_except_bind_ok hOk with ⟨cFloat, hCFloat, hOk⟩
  rcases of_except_bind_ok hOk with ⟨dFloat, hDFloat, hOk⟩
  cases direction with
  | high =>
      rw [if_pos rfl] at hOk
      by_cases hLt : cFloat.lt dFloat = true
      · rcases
          holdsNumber_pair hCaution hDanger hCFloat hDFloat
            hLt with
          ⟨x, y, hX, hY, -, -, hOrder⟩
        exact ⟨.high x y hOrder, hDirection, hX, hY⟩
      · rw [if_neg hLt] at hOk
        cases hOk
  | low =>
      rw [if_neg (by decide)] at hOk
      by_cases hLt : dFloat.lt cFloat = true
      · rcases
          holdsNumber_pair hDanger hCaution hDFloat hCFloat
            hLt with
          ⟨y, x, hY, hX, -, -, hOrder⟩
        exact ⟨.low x y hOrder, hDirection, hX, hY⟩
      · rw [if_neg hLt] at hOk
        cases hOk
  | both => exact absurd rfl hNotBoth

theorem reads_of_validateBoth
    {wording : Wording}
    {rendering : Rendering}
    {float : FloatConversion}
    {sensorType : String}
    (hDirection : directionOf? info = some .both)
    (hOk :
      validateBoth wording rendering float sensorType
        info = .ok ()) :
    ∃ bounds, Reads info bounds := by
  unfold validateBoth at hOk
  rcases of_except_bind_ok hOk with ⟨cHigh, hCHigh, hOk⟩
  rcases of_except_bind_ok hOk with ⟨dHigh, hDHigh, hOk⟩
  rcases of_except_bind_ok hOk with ⟨cLow, hCLow, hOk⟩
  rcases of_except_bind_ok hOk with ⟨dLow, hDLow, hOk⟩
  rcases of_except_bind_ok hOk with ⟨chFloat, hChFloat, hOk⟩
  rcases of_except_bind_ok hOk with ⟨dhFloat, hDhFloat, hOk⟩
  rcases of_except_bind_ok hOk with ⟨clFloat, hClFloat, hOk⟩
  rcases of_except_bind_ok hOk with ⟨dlFloat, hDlFloat, hOk⟩
  by_cases hUpper : chFloat.lt dhFloat = true
  · rw [if_neg (not_not.mpr hUpper)] at hOk
    by_cases hLower : dlFloat.lt clFloat = true
    · rw [if_neg (not_not.mpr hLower)] at hOk
      by_cases hApart : clFloat.lt chFloat = true
      · rcases
          holdsNumber_pair hCHigh hDHigh hChFloat hDhFloat
            hUpper with
          ⟨ch, dh, hCh, hDh, rfl, rfl, hUpperLt⟩
        rcases
          holdsNumber_pair hDLow hCLow hDlFloat hClFloat
            hLower with
          ⟨dl, cl, hDl, hCl, rfl, rfl, hLowerLt⟩
        rcases
          float.lt_of_lt hClFloat hChFloat hApart with
          ⟨_, _, hLow, hHigh, hApartLt⟩
        cases hLow
        cases hHigh
        exact
          ⟨.both ch dh cl dl hUpperLt hLowerLt hApartLt,
            hDirection, hCh, hDh, hCl, hDl⟩
      · rw [if_pos hApart] at hOk
        cases hOk
    · rw [if_pos hLower] at hOk
      cases hOk
  · rw [if_pos hUpper] at hOk
    cases hOk

theorem of_checkDirection
    {rendering : Rendering}
    {owner : String}
    {direction : Direction}
    (hOk :
      checkDirection rendering owner info = .ok direction) :
    directionOf? info = some direction := by
  unfold checkDirection at hOk
  cases hDirection : directionOf? info with
  | some found =>
      rw [hDirection] at hOk
      cases hOk
      rfl
  | none =>
      rw [hDirection] at hOk
      cases hValue :
          (valueAt? info "direction").getD .null with
      | list items =>
          simp only [hValue] at hOk
          cases hOk
      | mapping entries =>
          simp only [hValue] at hOk
          cases hOk
      | null | bool | number | text | other =>
          simp only [hValue] at hOk
          cases hOk

/- A validated entry holds bounds that are in order. -/
theorem exists_bounds_of_validateEntry
    {wording : Wording}
    {rendering : Rendering}
    {float : FloatConversion}
    {thresholds : List (Yaml × Yaml)}
    {sensorType : String}
    (hOk :
      validateEntry wording rendering float thresholds
        sensorType = .ok ()) :
    ∃ info bounds,
      valueAt? thresholds sensorType = some (.mapping info) ∧
        Reads info bounds := by
  unfold validateEntry at hOk
  cases hEntry : valueAt? thresholds sensorType with
  | none =>
      rw [hEntry] at hOk
      cases hOk
  | some entry =>
      rw [hEntry] at hOk
      cases entry with
      | mapping info =>
          rcases of_except_bind_ok hOk with
            ⟨direction, hDirection, hRest⟩
          have hFound := of_checkDirection hDirection
          by_cases hBoth : direction = .both
          · rw [if_pos hBoth] at hRest
            rw [hBoth] at hFound
            rcases reads_of_validateBoth hFound hRest with
              ⟨bounds, hReads⟩
            exact ⟨info, bounds, rfl, hReads⟩
          · rw [if_neg hBoth] at hRest
            rcases
              reads_of_validateHighLow hFound hBoth hRest with
              ⟨bounds, hReads⟩
            exact ⟨info, bounds, rfl, hReads⟩
      | null | bool | number | text | list | other =>
          cases hOk

/- A loop that ends was passed by each of its elements. -/
theorem of_forM_ok
    {R : Type}
    {elements : List R}
    {body : R → Except TableError Unit}
    (hOk : elements.forM body = .ok ()) :
    ∀ element ∈ elements, body element = .ok () := by
  induction elements with
  | nil =>
      intro element hMem
      cases hMem
  | cons first rest ih =>
      rcases of_except_bind_ok hOk with ⟨_, hFirst, hRest⟩
      intro element hMem
      rcases List.mem_cons.mp hMem with rfl | hLater
      · exact hFirst
      · exact ih hRest element hLater

/- An accepted table has a valid entry for each sensor. -/
theorem validateEntry_of_validateThresholds
    {wording : Wording}
    {sensorTypes : List String}
    {rendering : Rendering}
    {float : FloatConversion}
    {thresholds : Yaml}
    (hOk :
      validateThresholds wording sensorTypes rendering float
        thresholds = .ok ()) :
    ∃ entries,
      thresholds = .mapping entries ∧
        ∀ sensorType ∈ sensorTypes,
          validateEntry wording rendering float entries
            sensorType = .ok () := by
  unfold validateThresholds at hOk
  cases thresholds with
  | mapping entries =>
      refine ⟨entries, rfl, ?_⟩
      simp only at hOk
      split_ifs at hOk with hMissing
      exact of_forM_ok hOk
  | null | bool | number | text | list | other => cases hOk

end AiEngine

end Icmp2

------------------------------------------------------------
-- Levels of Validated Entries
------------------------------------------------------------

namespace Icmp2

namespace AiEngine

variable {info : List (Yaml × Yaml)}
variable {key : String}
variable {number : Extended}

theorem HoldsNumber.threshold?
    (hHolds : HoldsNumber info key number) :
    ∃ held,
      threshold? info key = some held ∧
        held.number? = some (.real number) := by
  rcases hHolds with ⟨held, hEntry, hNumber⟩
  refine ⟨held, ?_, hNumber⟩
  rw [AiEngine.threshold?, hEntry]
  cases held with
  | null => cases hNumber
  | bool value => rfl
  | number value => rfl
  | text value => cases hNumber
  | list items => cases hNumber
  | mapping entries => cases hNumber
  | other typeName => cases hNumber

theorem thresholdLe_of_number?
    {held : Yaml}
    (hNumber : held.number? = some (.real number))
    (value : ℚ) :
    thresholdLe held value =
      .ok (decide (number ≤ (value : Extended))) := by
  rw [thresholdLe, hNumber]

theorem leThreshold_of_number?
    {held : Yaml}
    (hNumber : held.number? = some (.real number))
    (value : ℚ) :
    leThreshold value held =
      .ok (decide ((value : Extended) ≤ number)) := by
  rw [leThreshold, hNumber]

theorem gradeBy_ok
    (dangerous cautious : Prop)
    [Decidable dangerous]
    [Decidable cautious] :
    gradeBy (.ok (decide dangerous)) (.ok (decide cautious)) =
      .ok (graded dangerous cautious) := by
  by_cases hDanger : dangerous
  · simp only [hDanger, graded, if_true, decide_true]
    rfl
  · by_cases hCaution : cautious
    · simp only [hDanger, hCaution, graded, if_false, if_true,
        decide_true, decide_false]
      rfl
    · simp only [hDanger, hCaution, graded, if_false,
        decide_false]
      rfl

theorem orAsk_ok
    (first second : Prop)
    [Decidable first]
    [Decidable second] :
    orAsk (.ok (decide first)) (.ok (decide second)) =
      .ok (decide (first ∨ second)) := by
  by_cases hFirst : first
  · simp only [hFirst, decide_true, true_or]
    rfl
  · simp only [hFirst, decide_false, false_or]
    rfl

/- The direction of an entry is the text that it holds. -/
theorem valueAt?_of_directionOf?
    {direction : Direction}
    (hDirection : directionOf? info = some direction) :
    valueAt? info "direction" =
      some (.text direction.name) := by
  unfold directionOf? at hDirection
  split at hDirection
  · next hEntry =>
      cases hDirection
      exact hEntry
  · next hEntry =>
      cases hDirection
      exact hEntry
  · next hEntry =>
      cases hDirection
      exact hEntry
  · cases hDirection

/- The classifier grades by the bounds that are read. -/
theorem evaluateEntry_of_reads
    {bounds : Bounds}
    (hReads : Reads info bounds)
    (value : ℚ) :
    evaluateEntry info value =
      .ok (bounds.level (value : Extended)) := by
  cases bounds with
  | high caution danger ordered =>
      rcases hReads with ⟨hDirection, hCaution, hDanger⟩
      rcases hCaution.threshold? with
        ⟨cHeld, hCHeld, hCNumber⟩
      rcases hDanger.threshold? with ⟨dHeld, hDHeld, hDNumber⟩
      simp only [evaluateEntry,
        valueAt?_of_directionOf? hDirection, Direction.name,
        hCHeld, hDHeld, thresholdLe_of_number? hCNumber,
        thresholdLe_of_number? hDNumber, gradeBy_ok,
        Bounds.level]
  | low caution danger ordered =>
      rcases hReads with ⟨hDirection, hCaution, hDanger⟩
      rcases hCaution.threshold? with
        ⟨cHeld, hCHeld, hCNumber⟩
      rcases hDanger.threshold? with ⟨dHeld, hDHeld, hDNumber⟩
      simp only [evaluateEntry,
        valueAt?_of_directionOf? hDirection, Direction.name,
        hCHeld, hDHeld, leThreshold_of_number? hCNumber,
        leThreshold_of_number? hDNumber, gradeBy_ok,
        Bounds.level]
  | both cHigh dHigh cLow dLow upper lower apart =>
      rcases hReads with
        ⟨hDirection, hCHigh, hDHigh, hCLow, hDLow⟩
      rcases hCHigh.threshold? with ⟨chHeld, hChHeld, hCh⟩
      rcases hDHigh.threshold? with ⟨dhHeld, hDhHeld, hDh⟩
      rcases hCLow.threshold? with ⟨clHeld, hClHeld, hCl⟩
      rcases hDLow.threshold? with ⟨dlHeld, hDlHeld, hDl⟩
      simp only [evaluateEntry,
        valueAt?_of_directionOf? hDirection, Direction.name,
        hChHeld, hDhHeld, hClHeld, hDlHeld,
        thresholdLe_of_number? hCh,
        thresholdLe_of_number? hDh,
        leThreshold_of_number? hCl,
        leThreshold_of_number? hDl, orAsk_ok, gradeBy_ok,
        Bounds.level]
      rfl

end AiEngine

end Icmp2

------------------------------------------------------------
-- Accepted Tables
------------------------------------------------------------

namespace Icmp2

namespace AiEngine

open Library

/- The loaders of the two tables. -/
inductive Loader where
  | gas
  | power
  deriving DecidableEq, Repr

def Loader.sensorTypes : Loader → List String
  | gas => gasSensorTypes
  | power => powerSensorTypes

def Loader.validate :
    Loader → Rendering → FloatConversion → Yaml →
      Except TableError Unit
  | gas => validateGasThresholds
  | power => validatePowerThresholds

/- The second value is graded at least as severe. -/
def Rises
    (classifier : ThresholdClassifier)
    (sensorType : String)
    (value other : ℚ) :
    Prop :=
  ∀ before after,
    classifier.classifyValue sensorType value = .ok before →
    classifier.classifyValue sensorType other = .ok after →
      before.severity ≤ after.severity

/-
  Every value of the sensor is graded, and its severity
  rises in the direction of the entry: upwards, downwards,
  or away from the band between the two cautions.
-/
structure Classifies
    (classifier : ThresholdClassifier)
    (sensorType : String)
    (info : List (Yaml × Yaml)) :
    Prop where
  never_unknown :
    ∀ value, ∃ level,
      classifier.classifyValue sensorType value = .ok level ∧
        level ≠ .unknown
  directed : (directionOf? info).isSome = true
  high :
    directionOf? info = some .high →
      ∀ value other, value ≤ other →
        Rises classifier sensorType value other
  low :
    directionOf? info = some .low →
      ∀ value other, other ≤ value →
        Rises classifier sensorType value other
  both :
    directionOf? info = some .both →
      ∃ bandLow bandHigh : Extended,
        HoldsNumber info "caution_low" bandLow ∧
        HoldsNumber info "caution_high" bandHigh ∧
        bandLow < bandHigh ∧
        (∀ value other : ℚ,
          bandLow < (value : Extended) → value ≤ other →
            Rises classifier sensorType value other) ∧
        ∀ value other : ℚ,
          (value : Extended) < bandHigh → other ≤ value →
            Rises classifier sensorType value other

theorem table_of_newClassifier
    {rendering : Rendering}
    {entries : List (Yaml × Yaml)}
    {classifier : ThresholdClassifier}
    (hNew :
      newClassifier rendering (.mapping entries) =
        .ok classifier) :
    classifier.table = entries := by
  rcases of_except_bind_ok hNew with ⟨_, -, hTable⟩
  cases hTable
  rfl

/- A classifier that grades by ordered bounds. -/
theorem classifies_of_bounds
    {classifier : ThresholdClassifier}
    {sensorType : String}
    {info : List (Yaml × Yaml)}
    {bounds : Bounds}
    (hReads : Reads info bounds)
    (hLevel :
      ∀ value : ℚ,
        classifier.classifyValue sensorType value =
          .ok (bounds.level (value : Extended))) :
    Classifies classifier sensorType info := by
  have hDirection := directionOf?_of_reads hReads
  have hRises :
      ∀ value other : ℚ,
        (bounds.level (value : Extended)).severity ≤
            (bounds.level (other : Extended)).severity →
          Rises classifier sensorType value other := by
    intro value other hLe before after hBefore hAfter
    rw [hLevel] at hBefore hAfter
    cases hBefore
    cases hAfter
    exact hLe
  refine ⟨?_, ?_, ?_, ?_, ?_⟩
  · intro value
    exact ⟨_, hLevel value, bounds.level_ne_unknown _⟩
  · rw [hDirection]
    rfl
  · intro hHigh value other hLe
    apply hRises
    cases bounds with
    | high caution danger ordered =>
        exact
          Bounds.severity_high_le ordered
            (WithBotTop.coe_le_coe.mpr hLe)
    | low caution danger ordered =>
        cases hHigh.symm.trans hDirection
    | both cHigh dHigh cLow dLow upper lower apart =>
        cases hHigh.symm.trans hDirection
  · intro hLow value other hLe
    apply hRises
    cases bounds with
    | high caution danger ordered =>
        cases hLow.symm.trans hDirection
    | low caution danger ordered =>
        exact
          Bounds.severity_low_le ordered
            (WithBotTop.coe_le_coe.mpr hLe)
    | both cHigh dHigh cLow dLow upper lower apart =>
        cases hLow.symm.trans hDirection
  · intro hBoth
    cases bounds with
    | high caution danger ordered =>
        cases hBoth.symm.trans hDirection
    | low caution danger ordered =>
        cases hBoth.symm.trans hDirection
    | both cHigh dHigh cLow dLow upper lower apart =>
        rcases hReads with ⟨-, hCHigh, -, hCLow, -⟩
        refine ⟨cLow, cHigh, hCLow, hCHigh, apart, ?_, ?_⟩
        · intro value other hAbove hLe
          apply hRises
          exact
            Bounds.severity_both_le_above hAbove
              (WithBotTop.coe_le_coe.mpr hLe)
        · intro value other hBelow hLe
          apply hRises
          exact
            Bounds.severity_both_le_below hBelow
              (WithBotTop.coe_le_coe.mpr hLe)

/-
  A classifier that is made of an accepted table grades all
  values of the sensors of its loader, and the more severe
  the further they are in the dangerous direction.
-/
theorem accepted_tables_classify
    (loader : Loader)
    (rendering : Rendering)
    (float : FloatConversion)
    (thresholds : Yaml)
    (classifier : ThresholdClassifier)
    (sensorType : String)
    (hAccepted :
      loader.validate rendering float thresholds = .ok ())
    (hNew :
      newClassifier rendering thresholds = .ok classifier)
    (hListed : sensorType ∈ loader.sensorTypes) :
    ∃ info,
      valueAt? classifier.table sensorType =
          some (.mapping info) ∧
        Classifies classifier sensorType info := by
  have hValid :
      ∃ wording entries,
        thresholds = .mapping entries ∧
          validateEntry wording rendering float entries
            sensorType = .ok () := by
    cases loader with
    | gas =>
        rcases
          validateEntry_of_validateThresholds hAccepted with
          ⟨entries, hTable, hEntries⟩
        exact
          ⟨_, entries, hTable, hEntries sensorType hListed⟩
    | power =>
        rcases
          validateEntry_of_validateThresholds hAccepted with
          ⟨entries, hTable, hEntries⟩
        exact
          ⟨_, entries, hTable, hEntries sensorType hListed⟩
  rcases hValid with ⟨wording, entries, rfl, hEntry⟩
  rcases exists_bounds_of_validateEntry hEntry with
    ⟨info, bounds, hInfo, hReads⟩
  have hTable := table_of_newClassifier hNew
  refine ⟨info, hTable ▸ hInfo, ?_⟩
  apply classifies_of_bounds hReads
  intro value
  rw [ThresholdClassifier.classifyValue, hTable, hInfo]
  exact evaluateEntry_of_reads hReads value

/- Numbers that are kept as they are. -/
def exactFloat : FloatConversion where
  round? := some
  mono := by
    intro x y a b hX hY hLe
    cases hX
    cases hY
    exact hLe

def plainRendering : Rendering where
  repr := fun _ => ""
  typeName := fun _ => ""
  float := fun _ => ""
  names := fun _ => ""
  allowed := ""

def field
    (key : String)
    (value : ℚ) :
    Yaml × Yaml :=
  (.text key, .number (.real (value : Extended)))

/- A voltage with a band, and two sensors without one. -/
def powerTable : List (Yaml × Yaml) :=
  [(.text "voltage",
      .mapping
        [(.text "direction", .text "both"),
          field "caution_high" 240, field "danger_high" 260,
          field "caution_low" 200, field "danger_low" 180]),
    (.text "current",
      .mapping
        [(.text "direction", .text "high"),
          field "caution" 20, field "danger" 30]),
    (.text "power",
      .mapping
        [(.text "direction", .text "high"),
          field "caution" 3000, field "danger" 4000])]

/- The voltage of the table is always graded. -/
theorem power_table_classifies :
    ∃ info,
      valueAt? powerTable "voltage" = some (.mapping info) ∧
        Classifies ⟨powerTable⟩ "voltage" info :=
  accepted_tables_classify .power plainRendering exactFloat
    (.mapping powerTable) ⟨powerTable⟩ "voltage"
    (by rfl) (by rfl) (by decide)

end AiEngine

end Icmp2
