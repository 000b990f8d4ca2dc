import Icmp2.Alerts.Services

/-
  Which tag finds which title.

  Main theorems include:
    * `Icmp2.Alerts.contains_changePoint_iff`
    * `Icmp2.Alerts.not_contains_anomaly`
    * `Icmp2.Alerts.contains_forecast_iff`

  The tags of STEP E and STEP G end in the name of a gas or
  sensor, and the search is for a substring; so the tag of
  co also finds the title of co2.
-/

------------------------------------------------------------
-- Gas and Sensor Names
------------------------------------------------------------

namespace Icmp2

namespace Alerts

open Monitoring AiEngine Library

/- The only name that is a proper prefix of another. -/
theorem gas_name_prefix_iff
    (gas other : Gas) :
    (upper gas.name).toList <+:
        (upper other.name).toList ++
          " 상태 변화 감지".toList ↔
      other = gas ∨ (gas = .co ∧ other = .co2) := by
  cases gas <;> cases other <;> decide

theorem sensor_name_prefix_iff
    (sensor other : SensorType) :
    (upper sensor.name).toList <+:
        (upper other.name).toList ++ " 사전 경고".toList ↔
      other = sensor ∨
        (sensor = .gas .co ∧ other = .gas .co2) := by
  cases sensor with
  | gas g =>
      cases other with
      | gas h => cases g <;> cases h <;> decide
      | voltage => cases g <;> decide
      | current => cases g <;> decide
      | power => cases g <;> decide
  | voltage =>
      cases other with
      | gas h => cases h <;> decide
      | voltage => decide
      | current => decide
      | power => decide
  | current =>
      cases other with
      | gas h => cases h <;> decide
      | voltage => decide
      | current => decide
      | power => decide
  | power =>
      cases other with
      | gas h => cases h <;> decide
      | voltage => decide
      | current => decide
      | power => decide

private theorem bracket_not_mem_gas
    (gas : Gas) :
    '[' ∉ (upper gas.name).toList := by
  cases gas <;> decide

private theorem bracket_not_mem_sensor
    (sensor : SensorType) :
    '[' ∉ (upper sensor.name).toList := by
  cases sensor with
  | gas g => exact bracket_not_mem_gas g
  | voltage => decide
  | current => decide
  | power => decide

end Alerts

end Icmp2

------------------------------------------------------------
-- Titles of STEP D and STEP E
------------------------------------------------------------

namespace Icmp2

namespace Alerts

open Monitoring AiEngine Library

private theorem changePointTag_toList
    (gas : Gas) :
    (changePointTag gas).toList =
      '[' :: (['C', 'P', ']', ' '] ++
        (upper gas.name).toList) := by
  change ("[CP] " ++ upper gas.name).toList = _
  rw [String.toList_append]
  rfl

/- The tag of a gas finds its titles, and co finds co2. -/
theorem contains_changePoint_iff
    (gas other : Gas) :
    Contains (Origin.changePoint other).title
        (changePointTag gas) ↔
      other = gas ∨ (gas = .co ∧ other = .co2) := by
  have hTitle :
      (Origin.changePoint other).title.toList =
        '[' :: (['C', 'P', ']', ' '] ++
          ((upper other.name).toList ++
            " 상태 변화 감지".toList)) := by
    change
      ("[CP] " ++ upper other.name ++
        " 상태 변화 감지").toList = _
    simp
  have hMark :
      '[' ∉ ['C', 'P', ']', ' '] ++
        ((upper other.name).toList ++
          " 상태 변화 감지".toList) := by
    simp only [List.mem_append, not_or]
    exact ⟨by decide, bracket_not_mem_gas other, by decide⟩
  rw [Contains, changePointTag_toList, hTitle,
    marked_infix_iff hMark,
    List.prefix_append_right_inj, gas_name_prefix_iff]

/- No tag of STEP E finds a title of STEP D. -/
theorem not_contains_anomaly
    (gases : List Gas)
    (gas : Gas) :
    ¬ Contains (Origin.anomaly gases).title
        (changePointTag gas) := by
  have hTitle :
      (Origin.anomaly gases).title.toList =
        '[' :: 'A' :: (['I', ']', ' '] ++
          ((commaJoin
            (gases.map
              fun gas => upper gas.name)).toList ++
            " 통계 이상 감지".toList)) := by
    change
      ("[AI] " ++
        commaJoin (gases.map fun gas => upper gas.name) ++
        " 통계 이상 감지").toList = _
    simp
  have hMark :
      '[' ∉ 'A' :: (['I', ']', ' '] ++
        ((commaJoin
          (gases.map
            fun gas => upper gas.name)).toList ++
          " 통계 이상 감지".toList)) := by
    intro hMem
    simp only [List.mem_cons, List.mem_append] at hMem
    rcases hMem with hEq | hEq | hJoin | hEnd
    · exact absurd hEq (by decide)
    · exact absurd hEq (by decide)
    · rcases mem_commaJoin hJoin with
        hEq | hEq | ⟨part, hPart, hChar⟩
      · exact absurd hEq (by decide)
      · exact absurd hEq (by decide)
      · rcases List.mem_map.mp hPart with ⟨g, _, rfl⟩
        exact bracket_not_mem_gas g hChar
    · exact absurd hEnd (by decide)
  rw [Contains, changePointTag_toList, hTitle,
    marked_infix_iff hMark]
  simp

end Alerts

end Icmp2

------------------------------------------------------------
-- Titles of STEP G
------------------------------------------------------------

namespace Icmp2

namespace Alerts

open Monitoring AiEngine Library

/- What stands between the brackets of a prefix. -/
private def prefixMark : Option ChannelCode → List Char
  | none => "예측".toList
  | some code => "예측·".toList ++ code.text.toList

private theorem titlePrefix_toList
    (code : Option ChannelCode) :
    (titlePrefix code).toList =
      '[' :: (prefixMark code ++ [']']) := by
  cases code with
  | none => decide
  | some code =>
      simp [titlePrefix, prefixMark]

private theorem brackets_not_mem_prefixMark
    (code : Option ChannelCode) :
    '[' ∉ prefixMark code ∧ ']' ∉ prefixMark code := by
  cases code with
  | none => decide
  | some code => cases code <;> decide

private theorem text_injective
    {left right : ChannelCode}
    (hText : left.text.toList = right.text.toList) :
    left = right := by
  have hSame := String.toList_injective hText
  cases left <;> cases right <;>
    first
    | rfl
    | exact absurd hSame (by decide)

private theorem prefixMark_injective
    {left right : Option ChannelCode}
    (hMark : prefixMark left = prefixMark right) :
    left = right := by
  cases left with
  | none =>
      cases right with
      | none => rfl
      | some code =>
          have hLength := congrArg List.length hMark
          simp [prefixMark] at hLength
  | some left =>
      cases right with
      | none =>
          have hLength := congrArg List.length hMark
          simp [prefixMark] at hLength
      | some right =>
          have hText :=
            List.append_cancel_left hMark
          rw [text_injective hText]

/-
  The tag of a channel and a sensor finds their titles,
  and the tag of co finds co2 on the same channel.
-/
theorem contains_forecast_iff
    (code otherCode : Option ChannelCode)
    (sensor other : SensorType) :
    Contains (Origin.forecast otherCode other).title
        (forecastTag code sensor) ↔
      otherCode = code ∧
        (other = sensor ∨
          (sensor = .gas .co ∧ other = .gas .co2)) := by
  have hTag :
      (forecastTag code sensor).toList =
        '[' :: (prefixMark code ++
          ']' :: ' ' :: (upper sensor.name).toList) := by
    simp [forecastTag, titlePrefix_toList]
  have hTitle :
      (Origin.forecast otherCode other).title.toList =
        '[' :: (prefixMark otherCode ++
          ']' :: ' ' :: ((upper other.name).toList ++
            " 사전 경고".toList)) := by
    change
      (titlePrefix otherCode ++ " " ++ upper other.name ++
        " 사전 경고").toList = _
    simp [titlePrefix_toList]
  have hBody :
      '[' ∉ prefixMark otherCode ++
        ']' :: ' ' :: ((upper other.name).toList ++
          " 사전 경고".toList) := by
    intro hMem
    simp only [List.mem_append, List.mem_cons] at hMem
    rcases hMem with hMark | hEq | hEq | hName | hEnd
    · exact
        (brackets_not_mem_prefixMark otherCode).1 hMark
    · exact absurd hEq (by decide)
    · exact absurd hEq (by decide)
    · exact bracket_not_mem_sensor other hName
    · exact absurd hEnd (by decide)
  rw [Contains, hTag, hTitle, marked_infix_iff hBody,
    delimited_prefix_iff
      (brackets_not_mem_prefixMark code).2
      (brackets_not_mem_prefixMark otherCode).2,
    List.cons_prefix_cons, sensor_name_prefix_iff]
  constructor
  · rintro ⟨hMark, _, hName⟩
    exact ⟨(prefixMark_injective hMark).symm, hName⟩
  · rintro ⟨hCode, hName⟩
    exact ⟨by rw [hCode], rfl, hName⟩

end Alerts

end Icmp2
