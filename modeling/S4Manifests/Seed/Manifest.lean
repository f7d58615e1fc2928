import S4Manifests.Seed.Generate

/-!
`seed_data.py`'s `generate_military_manifest`: its layout, keys and the literal parts of its
f-strings are the source's; what `random`, `uuid`, `datetime` and `Faker` return is the input
`ManifestDraw`, one record per section, with `.upper()` and `.lower()` applied.
-/

namespace S4Manifests

def ScalarText (s : PyStr) : Prop := ∀ c ∈ s, c.val < 0xD800 ∨ 0xDFFF < c.val

instance (s : PyStr) : Decidable (ScalarText s) :=
  inferInstanceAs (Decidable (∀ c ∈ s, c.val < 0xD800 ∨ 0xDFFF < c.val))

@[simp] theorem scalarText_append {s t : PyStr} : ScalarText (s ++ t) ↔ ScalarText s ∧ ScalarText t :=
  List.forall_mem_append

theorem scalarText_ofChar (text : List Char) : ScalarText (text.map PyChar.ofChar) := by
  intro c member
  obtain ⟨d, -, rfl⟩ := List.mem_map.mp member
  have valid := d.valid
  simp only [UInt32.isValidChar, Nat.isValidChar] at valid
  simp only [PyChar.ofChar, Char.toNat]
  omega

@[simp] theorem scalarText_pyStr (s : String) : ScalarText (pyStr s) := scalarText_ofChar _

@[simp] theorem scalarText_decimalStr (n : Nat) : ScalarText (decimalStr n) := scalarText_ofChar _

theorem scalarText_of_ascii {s : PyStr} (ascii : Ascii s) : ScalarText s := fun c member =>
  .inl (Nat.lt_trans (ascii c member) (by decide))

theorem scalarText_asciiUpper {s : PyStr} (scalar : ScalarText s) : ScalarText (asciiUpper s) := by
  intro c member
  obtain ⟨d, found, rfl⟩ := List.mem_map.mp member
  have kept := scalar d found
  split
  · exact .inl (by simp only; omega)
  · exact kept

theorem unpaired_of_scalarText {s : PyStr} (scalar : ScalarText s) : unpaired s = true := by
  induction s with
  | nil => rfl
  | cons c rest ih =>
    cases rest with
    | nil => rfl
    | cons d more =>
      have notHigh : isHighSurrogate c = false := by
        have kept := scalar c (.head _)
        simp only [isHighSurrogate, Bool.and_eq_false_iff, decide_eq_false_iff_not]
        omega
      rw [unpaired, notHigh, Bool.false_and, Bool.not_false, Bool.true_and,
        ih fun e member => scalar e (.tail _ member)]

theorem itemsReload_map {α : Type} {maxStrDigits : Nat} {floatRepr : PyFloat → PyStr} (f : α → PyVal) :
    ∀ items : List α, (∀ x ∈ items, (f x).reloads maxStrDigits floatRepr = true) →
      itemsReload maxStrDigits floatRepr (items.map f) = true
  | [], _ => rfl
  | x :: rest, each => by
    rw [List.map_cons, itemsReload, each x (.head _),
      itemsReload_map f rest fun y member => each y (.tail _ member), Bool.and_self]

theorem itemsReload_strs {α : Type} {maxStrDigits : Nat} {floatRepr : PyFloat → PyStr} {items : List α}
    (f : α → PyStr) (scalar : ∀ s ∈ items, ScalarText (f s)) :
    itemsReload maxStrDigits floatRepr (items.map fun s => .str (f s)) = true :=
  itemsReload_map _ items fun s member => unpaired_of_scalarText (scalar s member)

structure DocumentControlDraw where
  manifestId : PyStr
  caveats : List PyStr
  declassifyOn : PyStr
  createdAt : PyStr
  lastName : PyStr
  firstInitial : PyChar
  originatingAgency : PyStr

structure VehicleDraw where
  platform : Platform
  registrationNumber : PyStr
  tailNumber : PyStr
  operatorBranch : PyStr
  operatorNumber : PyStr
  homeCity : PyStr
  icaoHex : PyStr
  mode5Interrogator : PyStr

structure MissionDraw where
  missionType : PyStr
  missionDate : PyStr
  missionNumber : PyStr
  firstWord : PyStr
  secondWord : PyStr
  priority : PyStr
  commandAuthority : PyStr
  taskingDate : PyStr
  taskingNumber : PyStr
  missionStatus : PyStr
  scheduled : PyStr
  takeoff : PyStr
  onStation : PyStr
  offStation : PyStr
  expectedRecovery : PyStr
  areaCode : PyStr
  areaNumber : PyStr
  altitudeFloor : Nat
  altitudeCeiling : Nat
  restrictedAreas : List PyStr

structure TargetDraw where
  hexId : PyStr
  word : PyStr
  number : Nat
  targetType : PyStr
  priority : Nat

structure IntelligenceDraw where
  collectionDiscipline : List PyStr
  targetDeck : List TargetDraw
  collectionRequirements : List PyStr
  reportingCode : PyStr
  reportingNumber : PyStr

structure SensorsDraw where
  primarySensor : PyStr
  activeSensors : List PyStr
  emissionControl : PyStr
  datalinks : List PyStr

structure UnitDraw where
  branch : PyStr
  number : PyStr
  unit : PyStr

structure FrequencyDraw where
  megahertz : Nat
  hundredths : Nat

structure CoordinationDraw where
  supportingUnits : List UnitDraw
  coalitionPartners : List PyStr
  primary : FrequencyDraw
  secondary : FrequencyDraw
  checkInPoint : PyStr

structure TrackQualityDraw where
  source : PyStr
  reliability : PyFloat
  positionAccuracy : PyFloat
  velocityAccuracy : PyFloat
  lastUpdate : PyStr
  updateRate : Nat

structure ProcessingDraw where
  major : Nat
  minor : Nat
  patch : Nat
  nodeCode : PyStr
  nodeNumber : PyStr
  processingTime : PyFloat
  correlationId : PyStr
  validated : Bool
  fusedSources : Nat

structure ManifestDraw where
  documentControl : DocumentControlDraw
  vehicle : VehicleDraw
  mission : MissionDraw
  intelligence : IntelligenceDraw
  sensors : SensorsDraw
  coordination : CoordinationDraw
  trackQuality : TrackQualityDraw
  processing : ProcessingDraw

def format02d (n : Nat) : PyStr :=
  List.replicate (2 - (decimalStr n).length) (PyChar.ofChar '0') ++ decimalStr n

def manifestDocumentControl (d : DocumentControlDraw) (recordId classification : PyStr) : PyVal :=
  .dict [(pyStr "manifestId", .str d.manifestId),
    (pyStr "recordId", .str recordId),
    (pyStr "version", .str (pyStr "2.1")),
    (pyStr "classification", .str (asciiUpper classification)),
    (pyStr "caveats", .list (d.caveats.map .str)),
    (pyStr "declassifyOn", .str d.declassifyOn),
    (pyStr "createdAt", .str (d.createdAt ++ pyStr "Z")),
    (pyStr "createdBy", .str (d.lastName ++ pyStr ", " ++ [d.firstInitial])),
    (pyStr "originatingAgency", .str d.originatingAgency)]

def manifestVehicle (d : VehicleDraw) : PyVal :=
  .dict [(pyStr "registration", .str (d.platform.service ++ pyStr "-" ++ d.registrationNumber)),
    (pyStr "tailNumber", .str d.tailNumber),
    (pyStr "operator", .str (d.operatorBranch ++ pyStr " " ++ d.operatorNumber ++ pyStr " " ++
      if d.platform.type ∈ [pyStr "FIGHTER", pyStr "BOMBER"] then pyStr "SQN" else pyStr "WG")),
    (pyStr "platform", .dict [(pyStr "designation", .str d.platform.designation),
      (pyStr "name", .str d.platform.name),
      (pyStr "type", .str d.platform.type),
      (pyStr "service", .str d.platform.service)]),
    (pyStr "homeStation", .str (d.homeCity ++ pyStr " " ++
      if d.platform.service = pyStr "USAF" then pyStr "AFB" else pyStr "NAS")),
    (pyStr "icaoHex", .str d.icaoHex),
    (pyStr "mode5Interrogator", .str d.mode5Interrogator)]

def manifestMission (d : MissionDraw) : PyVal :=
  .dict [(pyStr "missionId", .str (pyStr "MSN-" ++ d.missionDate ++ pyStr "-" ++ d.missionNumber)),
    (pyStr "operationName", .str (pyStr "OP " ++ d.firstWord ++ pyStr " " ++ d.secondWord)),
    (pyStr "missionType", .str d.missionType),
    (pyStr "priority", .str d.priority),
    (pyStr "commandAuthority", .str d.commandAuthority),
    (pyStr "taskingOrder", .str (pyStr "ATO-" ++ d.taskingDate ++ pyStr "-" ++ d.taskingNumber)),
    (pyStr "missionStatus", .str d.missionStatus),
    (pyStr "timeline", .dict [(pyStr "scheduled", .str (d.scheduled ++ pyStr "Z")),
      (pyStr "takeoff", .str (d.takeoff ++ pyStr "Z")),
      (pyStr "onStation", .str (d.onStation ++ pyStr "Z")),
      (pyStr "offStation", .str (d.offStation ++ pyStr "Z")),
      (pyStr "expectedRecovery", .str (d.expectedRecovery ++ pyStr "Z"))]),
    (pyStr "airspace", .dict [
      (pyStr "operatingArea", .str (pyStr "AO-" ++ d.areaCode ++ pyStr "-" ++ d.areaNumber)),
      (pyStr "altitudeBlock", .str (pyStr "FL" ++ decimalStr d.altitudeFloor ++ pyStr "0-FL" ++
        decimalStr d.altitudeCeiling ++ pyStr "0")),
      (pyStr "restrictedAreas", .list (d.restrictedAreas.map fun n => .str (pyStr "R-" ++ n)))])]

def manifestTarget (d : TargetDraw) : PyVal :=
  .dict [(pyStr "targetId", .str (pyStr "TGT-" ++ d.hexId)),
    (pyStr "targetName", .str (d.word ++ pyStr " " ++ decimalStr d.number)),
    (pyStr "targetType", .str d.targetType),
    (pyStr "priority", .int d.priority)]

def manifestIntelligence (d : IntelligenceDraw) : PyVal :=
  .dict [(pyStr "collectionDiscipline", .list (d.collectionDiscipline.map .str)),
    (pyStr "targetDeck", .list (d.targetDeck.map manifestTarget)),
    (pyStr "collectionRequirements",
      .list (d.collectionRequirements.map fun n => .str (pyStr "CR-" ++ n))),
    (pyStr "reportingInstructions",
      .str (pyStr "RPTG-" ++ d.reportingCode ++ pyStr "-" ++ d.reportingNumber))]

def manifestSensors (d : SensorsDraw) : PyVal :=
  .dict [(pyStr "primarySensor", .str d.primarySensor),
    (pyStr "activeSensors", .list (d.activeSensors.map .str)),
    (pyStr "emissionControl", .str d.emissionControl),
    (pyStr "datalinks", .list (d.datalinks.map .str))]

def frequencyText (d : FrequencyDraw) : PyStr :=
  decimalStr d.megahertz ++ pyStr "." ++ format02d d.hundredths ++ pyStr " MHz"

def unitText (d : UnitDraw) : PyStr := d.branch ++ pyStr " " ++ d.number ++ pyStr " " ++ d.unit

def manifestCoordination (d : CoordinationDraw) : PyVal :=
  .dict [(pyStr "supportingUnits", .list (d.supportingUnits.map fun u => .str (unitText u))),
    (pyStr "coalitionPartners", .list (d.coalitionPartners.map .str)),
    (pyStr "frequencyPlan", .dict [(pyStr "primary", .str (frequencyText d.primary)),
      (pyStr "secondary", .str (frequencyText d.secondary)),
      (pyStr "guard", .str (pyStr "243.00 MHz"))]),
    (pyStr "checkInPoint", .str (pyStr "CP-" ++ d.checkInPoint))]

def manifestTrackQuality (d : TrackQualityDraw) : PyVal :=
  .dict [(pyStr "source", .str d.source),
    (pyStr "reliability", .float d.reliability),
    (pyStr "positionAccuracy_m", .float d.positionAccuracy),
    (pyStr "velocityAccuracy_mps", .float d.velocityAccuracy),
    (pyStr "lastUpdate", .str (d.lastUpdate ++ pyStr "Z")),
    (pyStr "updateRate_sec", .int d.updateRate)]

def manifestProcessing (d : ProcessingDraw) : PyVal :=
  .dict [(pyStr "ingestPipeline", .str (pyStr "v" ++ decimalStr d.major ++ pyStr "." ++
      decimalStr d.minor ++ pyStr "." ++ decimalStr d.patch)),
    (pyStr "processingNode", .str (pyStr "NODE-" ++ d.nodeCode ++ pyStr "-" ++ d.nodeNumber)),
    (pyStr "processingTime_ms", .float d.processingTime),
    (pyStr "correlationId", .str d.correlationId),
    (pyStr "validated", .bool d.validated),
    (pyStr "fusedSources", .int d.fusedSources)]

def generateMilitaryManifest (draw : ManifestDraw) (recordId classification : PyStr) : PyVal :=
  .dict [(pyStr "documentControl", manifestDocumentControl draw.documentControl recordId classification),
    (pyStr "vehicle", manifestVehicle draw.vehicle),
    (pyStr "mission", manifestMission draw.mission),
    (pyStr "intelligence", manifestIntelligence draw.intelligence),
    (pyStr "sensors", manifestSensors draw.sensors),
    (pyStr "coordination", manifestCoordination draw.coordination),
    (pyStr "trackQuality", manifestTrackQuality draw.trackQuality),
    (pyStr "processing", manifestProcessing draw.processing)]

def DocumentControlDraw.texts (d : DocumentControlDraw) : List PyStr :=
  [d.manifestId, d.declassifyOn, d.createdAt, d.lastName, [d.firstInitial], d.originatingAgency] ++
    d.caveats

def VehicleDraw.texts (d : VehicleDraw) : List PyStr :=
  [d.platform.designation, d.platform.name, d.platform.type, d.platform.service,
    d.registrationNumber, d.tailNumber, d.operatorBranch, d.operatorNumber, d.homeCity, d.icaoHex,
    d.mode5Interrogator]

def MissionDraw.texts (d : MissionDraw) : List PyStr :=
  [d.missionType, d.missionDate, d.missionNumber, d.firstWord, d.secondWord, d.priority,
    d.commandAuthority, d.taskingDate, d.taskingNumber, d.missionStatus, d.scheduled, d.takeoff,
    d.onStation, d.offStation, d.expectedRecovery, d.areaCode, d.areaNumber] ++ d.restrictedAreas

def TargetDraw.texts (d : TargetDraw) : List PyStr := [d.hexId, d.word, d.targetType]

def IntelligenceDraw.texts (d : IntelligenceDraw) : List PyStr :=
  [d.reportingCode, d.reportingNumber] ++ d.collectionDiscipline ++ d.collectionRequirements ++
    d.targetDeck.flatMap TargetDraw.texts

def SensorsDraw.texts (d : SensorsDraw) : List PyStr :=
  [d.primarySensor, d.emissionControl] ++ d.activeSensors ++ d.datalinks

def UnitDraw.texts (d : UnitDraw) : List PyStr := [d.branch, d.number, d.unit]

def CoordinationDraw.texts (d : CoordinationDraw) : List PyStr :=
  [d.checkInPoint] ++ d.coalitionPartners ++ d.supportingUnits.flatMap UnitDraw.texts

def TrackQualityDraw.texts (d : TrackQualityDraw) : List PyStr := [d.source, d.lastUpdate]

def ProcessingDraw.texts (d : ProcessingDraw) : List PyStr := [d.nodeCode, d.nodeNumber, d.correlationId]

def ManifestDraw.texts (d : ManifestDraw) : List PyStr :=
  d.documentControl.texts ++ d.vehicle.texts ++ d.mission.texts ++ d.intelligence.texts ++
    d.sensors.texts ++ d.coordination.texts ++ d.trackQuality.texts ++ d.processing.texts

def ManifestDraw.floats (d : ManifestDraw) : List PyFloat :=
  [d.trackQuality.reliability, d.trackQuality.positionAccuracy, d.trackQuality.velocityAccuracy,
    d.processing.processingTime]

section Reload

variable {maxStrDigits : Nat} {floatRepr : PyFloat → PyStr}

theorem int_reloads (n : Int) : (PyVal.int n).reloads maxStrDigits floatRepr = true := rfl

theorem bool_reloads (b : Bool) : (PyVal.bool b).reloads maxStrDigits floatRepr = true := rfl

theorem manifestDocumentControl_reloads {d : DocumentControlDraw} {recordId classification : PyStr}
    (texts : ∀ s ∈ d.texts, ScalarText s) (record : ScalarText recordId)
    (classified : ScalarText classification) :
    (manifestDocumentControl d recordId classification).reloads maxStrDigits floatRepr = true := by
  simp only [DocumentControlDraw.texts, List.forall_mem_append, List.forall_mem_cons,
    List.not_mem_nil, false_imp_iff, implies_true, and_true] at texts
  have caveats : itemsReload maxStrDigits floatRepr (d.caveats.map .str) = true :=
    itemsReload_strs (fun s => s) texts.2
  simp (disch := simp only [scalarText_append, scalarText_pyStr, scalarText_asciiUpper classified,
      record, texts, and_self])
    only [manifestDocumentControl, PyVal.reloads, membersReload, caveats, unpaired_of_scalarText,
      Bool.and_eq_true, List.map_cons, List.map_nil, decide_eq_true_eq, and_true, true_and]
  decide

theorem manifestVehicle_reloads {d : VehicleDraw} (texts : ∀ s ∈ d.texts, ScalarText s) :
    (manifestVehicle d).reloads maxStrDigits floatRepr = true := by
  simp only [VehicleDraw.texts, List.forall_mem_cons, List.not_mem_nil, false_imp_iff, implies_true,
    and_true] at texts
  simp (disch := simp only [scalarText_append, scalarText_pyStr, apply_ite ScalarText, ite_self, texts,
      and_self])
    only [manifestVehicle, PyVal.reloads, membersReload, unpaired_of_scalarText, Bool.and_eq_true,
      List.map_cons, List.map_nil, decide_eq_true_eq, and_true, true_and]
  decide

theorem manifestMission_reloads {d : MissionDraw} (texts : ∀ s ∈ d.texts, ScalarText s) :
    (manifestMission d).reloads maxStrDigits floatRepr = true := by
  simp only [MissionDraw.texts, List.forall_mem_append, List.forall_mem_cons, List.not_mem_nil,
    false_imp_iff, implies_true, and_true] at texts
  have restricted : itemsReload maxStrDigits floatRepr
      (d.restrictedAreas.map fun n => .str (pyStr "R-" ++ n)) = true :=
    itemsReload_strs _ fun n member => scalarText_append.mpr ⟨scalarText_pyStr _, texts.2 n member⟩
  simp (disch := simp only [scalarText_append, scalarText_pyStr, scalarText_decimalStr, texts, and_self])
    only [manifestMission, PyVal.reloads, membersReload, restricted, unpaired_of_scalarText,
      Bool.and_eq_true, List.map_cons, List.map_nil, decide_eq_true_eq, and_true, true_and]
  decide

theorem manifestTarget_reloads {d : TargetDraw} (texts : ∀ s ∈ d.texts, ScalarText s) :
    (manifestTarget d).reloads maxStrDigits floatRepr = true := by
  simp only [TargetDraw.texts, List.forall_mem_cons, List.not_mem_nil, false_imp_iff, implies_true,
    and_true] at texts
  simp (disch := simp only [scalarText_append, scalarText_pyStr, scalarText_decimalStr, texts, and_self])
    only [manifestTarget, PyVal.reloads, membersReload, int_reloads, unpaired_of_scalarText,
      Bool.and_eq_true, List.map_cons, List.map_nil, decide_eq_true_eq, and_true, true_and]
  decide

theorem manifestIntelligence_reloads {d : IntelligenceDraw} (texts : ∀ s ∈ d.texts, ScalarText s) :
    (manifestIntelligence d).reloads maxStrDigits floatRepr = true := by
  simp only [IntelligenceDraw.texts, List.forall_mem_append, List.forall_mem_cons, List.not_mem_nil,
    false_imp_iff, implies_true, and_true, List.forall_mem_flatMap] at texts
  obtain ⟨⟨⟨⟨code, number⟩, disciplines⟩, requirements⟩, targets⟩ := texts
  have discipline : itemsReload maxStrDigits floatRepr (d.collectionDiscipline.map .str) = true :=
    itemsReload_strs (fun s => s) disciplines
  have deck : itemsReload maxStrDigits floatRepr (d.targetDeck.map manifestTarget) = true :=
    itemsReload_map _ _ fun target member => manifestTarget_reloads (targets target member)
  have required : itemsReload maxStrDigits floatRepr
      (d.collectionRequirements.map fun n => .str (pyStr "CR-" ++ n)) = true :=
    itemsReload_strs _ fun n member => scalarText_append.mpr ⟨scalarText_pyStr _, requirements n member⟩
  simp (disch := simp only [scalarText_append, scalarText_pyStr, code, number, and_self])
    only [manifestIntelligence, PyVal.reloads, membersReload, discipline, deck, required,
      unpaired_of_scalarText, Bool.and_eq_true, List.map_cons, List.map_nil, decide_eq_true_eq,
      and_true, true_and]
  decide

theorem manifestSensors_reloads {d : SensorsDraw} (texts : ∀ s ∈ d.texts, ScalarText s) :
    (manifestSensors d).reloads maxStrDigits floatRepr = true := by
  simp only [SensorsDraw.texts, List.forall_mem_append, List.forall_mem_cons, List.not_mem_nil,
    false_imp_iff, implies_true, and_true] at texts
  obtain ⟨⟨⟨primary, emission⟩, active⟩, links⟩ := texts
  have activeReload : itemsReload maxStrDigits floatRepr (d.activeSensors.map .str) = true :=
    itemsReload_strs (fun s => s) active
  have linksReload : itemsReload maxStrDigits floatRepr (d.datalinks.map .str) = true :=
    itemsReload_strs (fun s => s) links
  simp (disch := simp only [scalarText_pyStr, primary, emission])
    only [manifestSensors, PyVal.reloads, membersReload, activeReload, linksReload,
      unpaired_of_scalarText, Bool.and_eq_true, List.map_cons, List.map_nil, decide_eq_true_eq,
      and_true, true_and]
  decide

@[simp] theorem scalarText_format02d (n : Nat) : ScalarText (format02d n) :=
  scalarText_append.mpr ⟨fun c member => by
    rw [List.eq_of_mem_replicate member]
    exact .inl (by decide), scalarText_decimalStr n⟩

@[simp] theorem scalarText_frequencyText (d : FrequencyDraw) : ScalarText (frequencyText d) := by
  simp only [frequencyText, scalarText_append, scalarText_pyStr, scalarText_decimalStr,
    scalarText_format02d, and_self]

theorem scalarText_unitText {d : UnitDraw} (texts : ∀ s ∈ d.texts, ScalarText s) :
    ScalarText (unitText d) := by
  simp only [UnitDraw.texts, List.forall_mem_cons, List.not_mem_nil, false_imp_iff, implies_true,
    and_true] at texts
  simp only [unitText, scalarText_append, scalarText_pyStr, texts, and_self]

theorem manifestCoordination_reloads {d : CoordinationDraw} (texts : ∀ s ∈ d.texts, ScalarText s) :
    (manifestCoordination d).reloads maxStrDigits floatRepr = true := by
  simp only [CoordinationDraw.texts, List.forall_mem_append, List.forall_mem_cons, List.not_mem_nil,
    false_imp_iff, implies_true, and_true, List.forall_mem_flatMap] at texts
  obtain ⟨⟨checkIn, partners⟩, units⟩ := texts
  have unitsReload : itemsReload maxStrDigits floatRepr
      (d.supportingUnits.map fun u => .str (unitText u)) = true :=
    itemsReload_strs unitText fun u member => scalarText_unitText (units u member)
  have partnersReload : itemsReload maxStrDigits floatRepr (d.coalitionPartners.map .str) = true :=
    itemsReload_strs (fun s => s) partners
  simp (disch := simp only [scalarText_append, scalarText_pyStr, scalarText_frequencyText, checkIn,
      and_self])
    only [manifestCoordination, PyVal.reloads, membersReload, unitsReload, partnersReload,
      unpaired_of_scalarText, Bool.and_eq_true, List.map_cons, List.map_nil, decide_eq_true_eq,
      and_true, true_and]
  decide

theorem manifestTrackQuality_reloads {d : TrackQualityDraw} (texts : ∀ s ∈ d.texts, ScalarText s)
    (reliability : (PyVal.float d.reliability).reloads maxStrDigits floatRepr = true)
    (position : (PyVal.float d.positionAccuracy).reloads maxStrDigits floatRepr = true)
    (velocity : (PyVal.float d.velocityAccuracy).reloads maxStrDigits floatRepr = true) :
    (manifestTrackQuality d).reloads maxStrDigits floatRepr = true := by
  simp only [TrackQualityDraw.texts, List.forall_mem_cons, List.not_mem_nil, false_imp_iff,
    implies_true, and_true] at texts
  simp (disch := simp only [scalarText_append, scalarText_pyStr, texts, and_self])
    only [manifestTrackQuality, PyVal.reloads.eq_2, PyVal.reloads.eq_4, membersReload, reliability, position, velocity,
      int_reloads, unpaired_of_scalarText, Bool.and_eq_true, List.map_cons, List.map_nil,
      decide_eq_true_eq, and_true, true_and]
  decide

theorem manifestProcessing_reloads {d : ProcessingDraw} (texts : ∀ s ∈ d.texts, ScalarText s)
    (time : (PyVal.float d.processingTime).reloads maxStrDigits floatRepr = true) :
    (manifestProcessing d).reloads maxStrDigits floatRepr = true := by
  simp only [ProcessingDraw.texts, List.forall_mem_cons, List.not_mem_nil, false_imp_iff,
    implies_true, and_true] at texts
  simp (disch := simp only [scalarText_append, scalarText_pyStr, scalarText_decimalStr, texts, and_self])
    only [manifestProcessing, PyVal.reloads.eq_2, PyVal.reloads.eq_4, membersReload, time, int_reloads, bool_reloads,
      unpaired_of_scalarText, Bool.and_eq_true, List.map_cons, List.map_nil, decide_eq_true_eq,
      and_true, true_and]
  decide

/-- `json.loads` rebuilds every generated manifest from its `json.dumps`. -/
theorem generateMilitaryManifest_reloads {draw : ManifestDraw} {recordId classification : PyStr}
    (texts : ∀ s ∈ draw.texts, ScalarText s)
    (floats : ∀ x ∈ draw.floats, (PyVal.float x).reloads maxStrDigits floatRepr = true)
    (record : ScalarText recordId) (classified : ScalarText classification) :
    (generateMilitaryManifest draw recordId classification).reloads maxStrDigits floatRepr = true := by
  simp only [ManifestDraw.texts, List.forall_mem_append] at texts
  obtain ⟨⟨⟨⟨⟨⟨⟨control, vehicle⟩, mission⟩, intelligence⟩, sensors⟩, coordination⟩, track⟩,
    processing⟩ := texts
  simp only [ManifestDraw.floats, List.forall_mem_cons, List.not_mem_nil, false_imp_iff,
    implies_true, and_true] at floats
  obtain ⟨reliability, position, velocity, time⟩ := floats
  simp (disch := simp only [scalarText_pyStr])
    only [generateMilitaryManifest, PyVal.reloads.eq_2, PyVal.reloads.eq_4, membersReload,
      manifestDocumentControl_reloads control record classified, manifestVehicle_reloads vehicle,
      manifestMission_reloads mission, manifestIntelligence_reloads intelligence,
      manifestSensors_reloads sensors, manifestCoordination_reloads coordination,
      manifestTrackQuality_reloads track reliability position velocity,
      manifestProcessing_reloads processing time, unpaired_of_scalarText, Bool.and_eq_true,
      List.map_cons, List.map_nil, decide_eq_true_eq, and_true, true_and]
  decide

end Reload

def sampleManifestDraw : ManifestDraw :=
  ⟨⟨pyStr "X", [pyStr "X"], pyStr "X", pyStr "X", pyStr "X", PyChar.ofChar 'X', pyStr "X"⟩,
    ⟨⟨pyStr "X", pyStr "X", pyStr "FIGHTER", pyStr "USAF"⟩, pyStr "X", pyStr "X", pyStr "X", pyStr "X",
      pyStr "X", pyStr "X", pyStr "X"⟩,
    ⟨pyStr "X", pyStr "X", pyStr "X", pyStr "X", pyStr "X", pyStr "X", pyStr "X", pyStr "X", pyStr "X",
      pyStr "X", pyStr "X", pyStr "X", pyStr "X", pyStr "X", pyStr "X", pyStr "X", pyStr "X", 25, 50,
      [pyStr "X"]⟩,
    ⟨[pyStr "X"], [⟨pyStr "X", pyStr "X", 7, pyStr "X", 1⟩], [pyStr "X"], pyStr "X", pyStr "X"⟩,
    ⟨pyStr "X", [pyStr "X"], pyStr "X", [pyStr "X"]⟩,
    ⟨[⟨pyStr "X", pyStr "X", pyStr "X"⟩], [pyStr "X"], ⟨300, 5⟩, ⟨250, 50⟩, pyStr "X"⟩,
    ⟨pyStr "X", .dec false 93 (-2), .dec false 93 (-2), .dec false 93 (-2), pyStr "X", 5⟩,
    ⟨3, 1, 4, pyStr "X", pyStr "X", .dec false 93 (-2), pyStr "X", true, 2⟩⟩

theorem sampleManifestDraw_texts : ∀ s ∈ sampleManifestDraw.texts, ScalarText s := by
  have initial : ScalarText [PyChar.ofChar 'X'] := scalarText_ofChar ['X']
  simp only [sampleManifestDraw, ManifestDraw.texts, DocumentControlDraw.texts, VehicleDraw.texts,
    MissionDraw.texts, IntelligenceDraw.texts, TargetDraw.texts, SensorsDraw.texts,
    CoordinationDraw.texts, UnitDraw.texts, TrackQualityDraw.texts, ProcessingDraw.texts,
    List.flatMap_cons, List.flatMap_nil, List.forall_mem_append, List.forall_mem_cons,
    List.not_mem_nil, false_imp_iff, implies_true, scalarText_pyStr, initial, and_self]

def ManifestDraw.ints (d : ManifestDraw) : List Nat :=
  d.intelligence.targetDeck.map TargetDraw.priority ++ [d.trackQuality.updateRate,
    d.processing.fusedSources]

section Dump

variable {maxStrDigits : Nat}

theorem intRepr_toBool {n : Nat} (short : (decimalStr n).length ≤ 640) :
    (intRepr maxStrDigits n).toBool = true := by
  have nonneg : ¬ (n : Int) < 0 := by omega
  unfold intRepr
  rw [Int.natAbs_ofNat, if_neg nonneg, List.nil_append,
    if_neg (by simp only [Bool.and_eq_true, decide_eq_true_eq, not_and]; omega)]
  rfl

theorem itemsDumpable_map {α : Type} (f : α → PyVal) (depth : Nat) :
    ∀ items : List α, (∀ x ∈ items, (f x).dumpable maxStrDigits depth = true) →
      itemsDumpable maxStrDigits depth (items.map f) = true
  | [], _ => rfl
  | x :: rest, each => by
    rw [List.map_cons, itemsDumpable, each x (.head _),
      itemsDumpable_map f depth rest fun y member => each y (.tail _ member), Bool.and_self]

theorem itemsDumpable_strs {α : Type} (f : α → PyStr) (depth : Nat) (items : List α) :
    itemsDumpable maxStrDigits depth (items.map fun x => .str (f x)) = true :=
  itemsDumpable_map _ depth items fun _ _ => PyVal.dumpable_str _ _ _

theorem manifestIntelligence_dumpable (depth : Nat) {d : IntelligenceDraw}
    (priorities : ∀ target ∈ d.targetDeck, (decimalStr target.priority).length ≤ 640) :
    (manifestIntelligence d).dumpable maxStrDigits (depth + 3) = true := by
  have deck : itemsDumpable maxStrDigits (depth + 1) (d.targetDeck.map manifestTarget) = true :=
    itemsDumpable_map _ _ _ fun target member => by
      simp only [manifestTarget, PyVal.dumpable_dict, PyVal.dumpable_str, PyVal.dumpable_int,
        intRepr_toBool (priorities target member), membersDumpable, Bool.and_self]
  simp only [manifestIntelligence, PyVal.dumpable_dict, PyVal.dumpable_list, PyVal.dumpable_str,
    membersDumpable, deck, itemsDumpable_strs, itemsDumpable_strs (fun s => s), Bool.and_self]

theorem generateMilitaryManifest_dumpable (depth : Nat) {draw : ManifestDraw}
    (recordId classification : PyStr) (ints : ∀ n ∈ draw.ints, (decimalStr n).length ≤ 640) :
    (generateMilitaryManifest draw recordId classification).dumpable maxStrDigits (depth + 4) = true := by
  simp only [ManifestDraw.ints, List.forall_mem_append, List.forall_mem_map, List.forall_mem_cons,
    List.not_mem_nil, false_imp_iff, implies_true, and_true] at ints
  obtain ⟨priorities, rate, fused⟩ := ints
  simp only [generateMilitaryManifest, manifestDocumentControl, manifestVehicle, manifestMission,
    manifestSensors, manifestCoordination, manifestTrackQuality, manifestProcessing,
    manifestIntelligence_dumpable depth priorities, PyVal.dumpable_dict, PyVal.dumpable_list,
    PyVal.dumpable_str, PyVal.dumpable_float, PyVal.dumpable_bool, PyVal.dumpable_int,
    intRepr_toBool rate, intRepr_toBool fused, membersDumpable, itemsDumpable_strs,
    itemsDumpable_strs (fun s => s), Bool.and_self]

end Dump

/-- `json.dumps` writes every generated manifest and `json.loads` reads it back as it was. -/
theorem generateMilitaryManifest_round_trip (limits : JsonLimits) (floatRepr : PyFloat → PyStr)
    {draw : ManifestDraw} {recordId classification : PyStr} (nested : 4 ≤ limits.recursionLimit)
    (texts : ∀ s ∈ draw.texts, ScalarText s)
    (floats : ∀ x ∈ draw.floats, (PyVal.float x).reloads limits.maxStrDigits floatRepr = true)
    (ints : ∀ n ∈ draw.ints, (decimalStr n).length ≤ 640)
    (record : ScalarText recordId) (classified : ScalarText classification) :
    ∃ text, jsonDumps limits floatRepr (generateMilitaryManifest draw recordId classification) =
        .ok text ∧
      jsonLoads limits text = .ok (generateMilitaryManifest draw recordId classification) := by
  obtain ⟨depth, deep⟩ : ∃ depth, limits.recursionLimit = depth + 4 :=
    ⟨_, (Nat.sub_add_cancel nested).symm⟩
  obtain ⟨text, dumped⟩ := (jsonDumps_ok_iff limits floatRepr _).mpr
    (deep ▸ generateMilitaryManifest_dumpable depth recordId classification ints)
  have reloads := generateMilitaryManifest_reloads texts floats record classified
  obtain ⟨c, more, rfl, solid, -, ascii⟩ := listencodeObj_head reloads dumped
  exact ⟨_, dumped, jsonLoads_of_scanOnce solid ascii (scanOnce_jsonDumps reloads dumped)⟩

theorem generateMilitaryManifest_round_trip_sample :
    4 ≤ (⟨1000, 4300⟩ : JsonLimits).recursionLimit ∧
    (∀ x ∈ sampleManifestDraw.floats, (PyVal.float x).reloads 4300 (fun _ => pyStr "0.93") = true) ∧
    (∀ n ∈ sampleManifestDraw.ints, (decimalStr n).length ≤ 640) ∧
    ∃ text, jsonDumps ⟨1000, 4300⟩ (fun _ => pyStr "0.93")
        (generateMilitaryManifest sampleManifestDraw (pyStr "a") (pyStr "secret")) = .ok text ∧
      jsonLoads ⟨1000, 4300⟩ text =
        .ok (generateMilitaryManifest sampleManifestDraw (pyStr "a") (pyStr "secret")) :=
  have floats : ∀ x ∈ sampleManifestDraw.floats,
      (PyVal.float x).reloads 4300 (fun _ => pyStr "0.93") = true := by decide
  have ints : ∀ n ∈ sampleManifestDraw.ints, (decimalStr n).length ≤ 640 := by decide
  ⟨by decide, floats, ints, generateMilitaryManifest_round_trip ⟨1000, 4300⟩ (fun _ => pyStr "0.93")
    (by decide) sampleManifestDraw_texts floats ints (scalarText_pyStr _) (scalarText_pyStr _)⟩

end S4Manifests
