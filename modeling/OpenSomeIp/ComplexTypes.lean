import OpenSomeIp.SerializationRoundTrip
import OpenSomeIp.Utf8

set_option autoImplicit false

namespace OpenSomeIp

open Framing

/-- The format `"!f"` of `struct`, for the floats `φ`. -/
structure FloatCodec (φ : Type) where
  pack : φ → Except Exn Bytes
  unpack : Bytes → Except Exn φ

/-- A float of single precision: its four bytes say what it is. -/
def FloatCodec.Single {φ : Type} (floats : FloatCodec φ) (value : φ) : Prop :=
  ∃ bytes, floats.pack value = .ok bytes ∧ bytes.length = 4 ∧ floats.unpack bytes = .ok value

structure VehicleData (φ : Type) where
  vehicleId : Int
  model : PyStr
  fuelLevel : φ
  tirePressure : List Int
  lightsOn : Bool
  mileage : Int

structure SensorReading (φ : Type) where
  sensorId : Int
  value : φ
  unit : PyStr
  timestamp : Int

/-- The pattern `ser = Serializer(); ...; return ser.to_bytes()`. -/
def Serializer.serialize (write : Serializer.Write) : Except Exn Bytes :=
  (write {}).1.map fun _ => (write {}).2.toBytes

namespace ComplexTypes

variable {φ : Type} (floats : FloatCodec φ)

def writeFloat32 (value : φ) : Serializer.Write := do
  let packed ← Method.lift (floats.pack value)
  Serializer.extend packed

def readFloat32 : Deserializer.Read φ := do
  let result ← Deserializer.read 4
  Method.lift (floats.unpack result)

def readUint8 : Deserializer.Read Int := do
  let byte ← Deserializer.readUint8
  pure byte.toNat

/-! ### The messages of the service -/

def serializeVehicleData (v : VehicleData φ) : Except Exn Bytes := Serializer.serialize do
  Serializer.writeUint32 v.vehicleId
  Serializer.writeString v.model .utf8
  writeFloat32 floats v.fuelLevel
  let _ ← Method.each Serializer.writeUint8 v.tirePressure
  Serializer.writeBool v.lightsOn
  Serializer.writeUint16 v.mileage

def deserializeVehicle : Deserializer.Read (VehicleData φ) := do
  let vehicleId ← Deserializer.readUint32
  let model ← Deserializer.readString .utf8
  let fuelLevel ← readFloat32 floats
  let tirePressure ← Method.times 4 readUint8
  let lightsOn ← Deserializer.readBool
  let mileage ← Deserializer.readUint16
  pure ⟨vehicleId, model, fuelLevel, tirePressure, lightsOn, mileage⟩

def serializeSensorReading (reading : SensorReading φ) : Except Exn Bytes :=
  Serializer.serialize do
    Serializer.writeUint8 reading.sensorId
    writeFloat32 floats reading.value
    Serializer.writeString reading.unit .utf8
    Serializer.writeUint32 reading.timestamp

def deserializeSensorReading : Deserializer.Read (SensorReading φ) := do
  let sensorId ← readUint8
  let value ← readFloat32 floats
  let unit ← Deserializer.readString .utf8
  let timestamp ← Deserializer.readUint32
  pure ⟨sensorId, value, unit, timestamp⟩

/-- One turn of the loop of `serialize_sensor_array`. -/
def writeSensor (s : SensorReading φ) : Serializer.Write := do
  let sensorBytes ← Method.lift (serializeSensorReading floats s)
  Serializer.writeUint32 sensorBytes.length
  Serializer.writeBytesRaw sensorBytes

def serializeSensorArray (sensors : List (SensorReading φ)) : Except Exn Bytes :=
  Serializer.serialize do
    Serializer.writeUint32 sensors.length
    let _ ← Method.each (writeSensor floats) sensors
    pure ()

/-- One turn of the client's loop, which does not look at the length. -/
def readSensor : Deserializer.Read (SensorReading φ) := do
  let _length ← Deserializer.readUint32
  deserializeSensorReading floats

/-- The client's `test_sensor_array`, up to what it prints. -/
def readSensorArray : Deserializer.Read (List (SensorReading φ)) := do
  let count ← Deserializer.readUint32
  Method.times count.toNat (readSensor floats)

/-! ### The handlers -/

/-- The text `f"Processed vehicle data for {model} (ID: {id})"`. -/
def processed (model : PyStr) (vehicleId : Int) : PyStr :=
  "Processed vehicle data for ".toList.map fromChar ++ model ++
    (" (ID: " ++ toString vehicleId ++ ")").toList.map fromChar

def handleProcessVehicleData (payload : Bytes) : Except Exn Bytes := do
  let vehicle ← (deserializeVehicle floats { data := payload }).1
  Serializer.serialize (Serializer.writeString (processed vehicle.model vehicle.vehicleId) .utf8)

def handleEchoComplexStruct (payload : Bytes) : Except Exn Bytes := do
  let sensor ← (deserializeSensorReading floats { data := payload }).1
  serializeSensorReading floats sensor

/-! ### What is written is what is read -/

theorem serialize_of_emits {write : Serializer.Write} {bytes : Bytes}
    (emits : Emits Serializer.emitted write bytes) : Serializer.serialize write = .ok bytes := by
  obtain ⟨value, wrote⟩ := emits []
  have ran : write {} = (.ok value, Serializer.emitted bytes) := wrote
  rw [Serializer.serialize, ran]
  rfl

/-- A reader that consumes the front of a payload ends behind it. -/
theorem read_front {α : Type} {reader : Deserializer.Read α} {bytes : Bytes} {value : α}
    (consumes : Consumes Deserializer.place reader bytes value) (back : Bytes) :
    reader { data := bytes ++ back } = (.ok value, { data := bytes ++ back, pos := bytes.length }) := by
  have walked := consumes [] back
  simp only [Deserializer.place, List.nil_append, List.length_nil, Int.ofNat_zero] at walked
  exact walked

theorem read_whole {α : Type} {reader : Deserializer.Read α} {bytes : Bytes} {value : α}
    (consumes : Consumes Deserializer.place reader bytes value) :
    reader { data := bytes } = (.ok value, { data := bytes, pos := bytes.length }) := by
  simpa only [List.append_nil] using read_front consumes []

theorem readString_consumes {encoding : Codec} {text : PyStr}
    (writable : (Value.string encoding text).Writable) :
    Consumes Deserializer.place (Deserializer.readString encoding)
      (Value.string encoding text).frame text := by
  intro front back
  have walked := (Value.string encoding text).read_consumes writable front back
  obtain ⟨read, d, first, last⟩ := Method.bind_eq_ok walked
  rw [Method.pure_apply] at last
  obtain ⟨same, rfl⟩ := Prod.mk.inj last
  obtain ⟨-, rfl⟩ := Value.string.inj (Except.ok.inj same)
  exact first

theorem readUint8_consumes {value : Int} (fits : IntKind.uint8.format.Holds value) :
    Consumes Deserializer.place readUint8 (packed IntKind.uint8.format value) value :=
  IntKind.uint8.read_consumes fits

/-- The four bytes of a float. -/
def single (value : φ) : Bytes := (floats.pack value).toOption.getD []

variable {floats}

theorem writeFloat32_emits {value : φ} (precise : floats.Single value) :
    Emits Serializer.emitted (writeFloat32 floats value) (single floats value) := by
  obtain ⟨bytes, packs, -, -⟩ := precise
  rw [single, packs]
  exact Emits.lift packs (extend_emits bytes)

theorem readFloat32_consumes {value : φ} (precise : floats.Single value) :
    Consumes Deserializer.place (readFloat32 floats) (single floats value) value := by
  obtain ⟨bytes, packs, four, unpacks⟩ := precise
  rw [single, packs]
  have walked := read_consumes bytes
  rw [four] at walked
  exact walked.bind_nil (Consumes.lift unpacks)

end ComplexTypes

/-- What the writers take without a change. -/
structure SensorReading.Writable {φ : Type} (floats : FloatCodec φ) (r : SensorReading φ) : Prop where
  sensorId : IntKind.uint8.format.Holds r.sensorId
  value : floats.Single r.value
  unit : (Value.string .utf8 r.unit).Writable
  timestamp : IntFormat.I.Holds r.timestamp

structure VehicleData.Writable {φ : Type} (floats : FloatCodec φ) (v : VehicleData φ) : Prop where
  vehicleId : IntFormat.I.Holds v.vehicleId
  model : (Value.string .utf8 v.model).Writable
  fuelLevel : floats.Single v.fuelLevel
  tirePressure : ∀ p ∈ v.tirePressure, IntKind.uint8.format.Holds p
  mileage : IntFormat.H.Holds v.mileage

namespace ComplexTypes

variable {φ : Type} {floats : FloatCodec φ}

/-- The bytes of a reading. -/
def readingFrame (floats : FloatCodec φ) (r : SensorReading φ) : Bytes :=
  packed IntKind.uint8.format r.sensorId ++ (single floats r.value ++
    ((Value.string .utf8 r.unit).frame ++ packed .I r.timestamp))

theorem serializeSensorReading_eq {r : SensorReading φ} (writable : r.Writable floats) :
    serializeSensorReading floats r = .ok (readingFrame floats r) := by
  apply serialize_of_emits
  refine (writeUint8_emits writable.sensorId).bind fun _ => ?_
  refine (writeFloat32_emits writable.value).bind fun _ => ?_
  refine Emits.bind ((Value.string .utf8 r.unit).write_emits writable.unit) fun _ => ?_
  exact extendPacked_emits writable.timestamp

theorem deserializeSensorReading_consumes {r : SensorReading φ} (writable : r.Writable floats) :
    Consumes Deserializer.place (deserializeSensorReading floats) (readingFrame floats r) r := by
  refine (readUint8_consumes writable.sensorId).bind ?_
  refine (readFloat32_consumes writable.value).bind ?_
  refine (readString_consumes writable.unit).bind ?_
  exact (readPacked_consumes (by decide) writable.timestamp).bind_nil (Consumes.pure _)

/-- The bytes of a reading in an array. -/
def sensorFrame (floats : FloatCodec φ) (r : SensorReading φ) : Bytes :=
  packed .I (readingFrame floats r).length ++ readingFrame floats r

theorem writeSensor_emits {r : SensorReading φ} (writable : r.Writable floats)
    (short : (readingFrame floats r).length < 2 ^ 32) :
    Emits Serializer.emitted (writeSensor floats r) (sensorFrame floats r) := by
  refine Emits.lift (serializeSensorReading_eq writable) ?_
  exact (extendPacked_emits (prefix_holds short)).bind fun _ => extend_emits _

theorem readSensor_consumes {r : SensorReading φ} (writable : r.Writable floats)
    (short : (readingFrame floats r).length < 2 ^ 32) :
    Consumes Deserializer.place (readSensor floats) (sensorFrame floats r) r :=
  (readPacked_consumes (by decide) (prefix_holds short)).bind
    (deserializeSensorReading_consumes writable)

/-- The bytes of a vehicle, whatever the number of its tires. -/
def vehicleFrame (floats : FloatCodec φ) (v : VehicleData φ) : Bytes :=
  packed .I v.vehicleId ++ ((Value.string .utf8 v.model).frame ++ (single floats v.fuelLevel ++
    (v.tirePressure.flatMap (packed IntKind.uint8.format) ++
      ([if v.lightsOn then 1 else 0] ++ packed .H v.mileage))))

theorem serializeVehicleData_eq {v : VehicleData φ} (writable : v.Writable floats) :
    serializeVehicleData floats v = .ok (vehicleFrame floats v) := by
  apply serialize_of_emits
  refine (extendPacked_emits writable.vehicleId).bind fun _ => ?_
  refine Emits.bind ((Value.string .utf8 v.model).write_emits writable.model) fun _ => ?_
  refine (writeFloat32_emits writable.fuelLevel).bind fun _ => ?_
  refine Emits.bind (Emits.each _ fun p member => writeUint8_emits (writable.tirePressure p member))
    fun _ => ?_
  exact (extend_emits _).bind fun _ => extendPacked_emits writable.mileage

theorem deserializeVehicle_consumes {v : VehicleData φ} (writable : v.Writable floats)
    (four : v.tirePressure.length = 4) :
    Consumes Deserializer.place (deserializeVehicle floats) (vehicleFrame floats v) v := by
  refine (readPacked_consumes (by decide) writable.vehicleId).bind ?_
  refine (readString_consumes writable.model).bind ?_
  refine (readFloat32_consumes writable.fuelLevel).bind ?_
  have tires := Consumes.repeated v.tirePressure
    fun p member => readUint8_consumes (writable.tirePressure p member)
  rw [four] at tires
  refine tires.bind ?_
  refine (readBool_consumes v.lightsOn).bind ?_
  exact (readPacked_consumes (by decide) writable.mileage).bind_nil (Consumes.pure _)

theorem serializeSensorArray_eq {sensors : List (SensorReading φ)}
    (few : sensors.length < 2 ^ 32) (writable : ∀ r ∈ sensors, r.Writable floats)
    (short : ∀ r ∈ sensors, (readingFrame floats r).length < 2 ^ 32) :
    serializeSensorArray floats sensors =
      .ok (packed .I sensors.length ++ sensors.flatMap (sensorFrame floats)) := by
  apply serialize_of_emits
  refine (extendPacked_emits (prefix_holds few)).bind fun _ => ?_
  have each : Emits Serializer.emitted (Method.each (writeSensor floats) sensors)
      (sensors.flatMap (sensorFrame floats)) :=
    Emits.each sensors fun r member => writeSensor_emits (writable r member) (short r member)
  rw [← List.append_nil (sensors.flatMap (sensorFrame floats))]
  exact each.bind fun _ => Emits.pure ()

theorem readSensorArray_consumes {sensors : List (SensorReading φ)}
    (few : sensors.length < 2 ^ 32) (writable : ∀ r ∈ sensors, r.Writable floats)
    (short : ∀ r ∈ sensors, (readingFrame floats r).length < 2 ^ 32) :
    Consumes Deserializer.place (readSensorArray floats)
      (packed .I sensors.length ++ sensors.flatMap (sensorFrame floats)) sensors :=
  (readPacked_consumes (by decide) (prefix_holds few)).bind
    (Consumes.repeated sensors fun r member =>
      readSensor_consumes (writable r member) (short r member))

/-- The server reads four tires, whatever the client has written. -/
theorem deserializeVehicle_four {d t : Deserializer} {v : VehicleData φ}
    (read : deserializeVehicle floats d = (.ok v, t)) : v.tirePressure.length = 4 := by
  obtain ⟨_, _, _, read⟩ := Method.bind_eq_ok read
  obtain ⟨_, _, _, read⟩ := Method.bind_eq_ok read
  obtain ⟨_, _, _, read⟩ := Method.bind_eq_ok read
  obtain ⟨tires, _, taken, read⟩ := Method.bind_eq_ok read
  obtain ⟨_, _, _, read⟩ := Method.bind_eq_ok read
  obtain ⟨_, _, _, read⟩ := Method.bind_eq_ok read
  rw [Method.pure_apply] at read
  obtain rfl := Except.ok.inj (Prod.mk.inj read).1
  exact Method.length_times taken

theorem handleEchoComplexStruct_eq {r : SensorReading φ} (writable : r.Writable floats)
    (back : Bytes) :
    handleEchoComplexStruct floats (readingFrame floats r ++ back) =
      .ok (readingFrame floats r) := by
  rw [handleEchoComplexStruct, read_front (deserializeSensorReading_consumes writable)]
  exact serializeSensorReading_eq writable

theorem processed_map (chars : List Char) (vehicleId : Int) :
    processed (chars.map fromChar) vehicleId =
      ("Processed vehicle data for ".toList ++ chars ++
        (" (ID: " ++ toString vehicleId ++ ")").toList).map fromChar := by
  delta processed
  rw [List.map_append, List.map_append]

/-- The text of an answer can be written unless it is too long. -/
theorem processed_writable {v : VehicleData φ} (writable : v.Writable floats)
    (short : ∀ text, Codec.utf8.encode (processed v.model v.vehicleId) = .ok text →
      text.length < 2 ^ 32 - 1) :
    (Value.string .utf8 (processed v.model v.vehicleId)).Writable := by
  obtain ⟨raw, encoded, -, -⟩ := writable.model
  obtain ⟨chars, model⟩ := (Codec.utf8_encodes_iff v.model).mp ⟨raw, encoded⟩
  have characters := processed_map chars v.vehicleId
  rw [model] at characters
  obtain ⟨text, written⟩ :=
    (Codec.utf8_encodes_iff (processed v.model v.vehicleId)).mpr ⟨_, characters.symm⟩
  exact ⟨text, written, Codec.utf8_decode_encode _ text written, short text written⟩

theorem handleProcessVehicleData_eq {v : VehicleData φ} (writable : v.Writable floats)
    (four : v.tirePressure.length = 4)
    (answer : (Value.string .utf8 (processed v.model v.vehicleId)).Writable) :
    handleProcessVehicleData floats (vehicleFrame floats v) =
      .ok (Value.string .utf8 (processed v.model v.vehicleId)).frame := by
  rw [handleProcessVehicleData, read_whole (deserializeVehicle_consumes writable four)]
  exact serialize_of_emits ((Value.string .utf8 (processed v.model v.vehicleId)).write_emits answer)

end ComplexTypes

open ComplexTypes in
/-- What one side of the complex types service writes is what the other side reads: the reading
and its echo, the array of any length, and the vehicle if and only if it has four tires. -/
theorem complex_types_round_trip {φ : Type} (floats : FloatCodec φ) :
    (∀ r : SensorReading φ, r.Writable floats →
      ∃ payload, serializeSensorReading floats r = .ok payload ∧
        deserializeSensorReading floats { data := payload } =
          (.ok r, { data := payload, pos := payload.length }) ∧
        ∀ back, handleEchoComplexStruct floats (payload ++ back) = .ok payload) ∧
    (∀ sensors : List (SensorReading φ), sensors.length < 2 ^ 32 →
      (∀ r ∈ sensors, r.Writable floats ∧
        ∀ bytes, serializeSensorReading floats r = .ok bytes → bytes.length < 2 ^ 32) →
      ∃ payload, serializeSensorArray floats sensors = .ok payload ∧
        readSensorArray floats { data := payload } =
          (.ok sensors, { data := payload, pos := payload.length })) ∧
    ∀ v : VehicleData φ, v.Writable floats →
      ∃ payload, serializeVehicleData floats v = .ok payload ∧
        ((deserializeVehicle floats { data := payload }).1 = .ok v ↔ v.tirePressure.length = 4) ∧
        (v.tirePressure.length = 4 →
          (∀ text, Codec.utf8.encode (processed v.model v.vehicleId) = .ok text →
            text.length < 2 ^ 32 - 1) →
          ∃ response, handleProcessVehicleData floats payload = .ok response ∧
            Deserializer.readString .utf8 { data := response } =
              (.ok (processed v.model v.vehicleId),
                { data := response, pos := response.length })) := by
  refine ⟨fun r writable => ?_, fun sensors few writable => ?_, fun v writable => ?_⟩
  · exact ⟨_, serializeSensorReading_eq writable,
      read_whole (deserializeSensorReading_consumes writable),
      handleEchoComplexStruct_eq writable⟩
  · have each : ∀ r ∈ sensors, r.Writable floats := fun r member => (writable r member).1
    have short : ∀ r ∈ sensors, (readingFrame floats r).length < 2 ^ 32 := fun r member =>
      (writable r member).2 _ (serializeSensorReading_eq (each r member))
    exact ⟨_, serializeSensorArray_eq few each short,
      read_whole (readSensorArray_consumes few each short)⟩
  · refine ⟨_, serializeVehicleData_eq writable, ⟨fun read => ?_, fun four => ?_⟩,
      fun four short => ?_⟩
    · exact deserializeVehicle_four (Prod.ext read rfl)
    · rw [read_whole (deserializeVehicle_consumes writable four)]
    · have answer := processed_writable writable short
      exact ⟨_, handleProcessVehicleData_eq writable four answer,
        read_whole (readString_consumes answer)⟩

/-- Floats by their bits. -/
def FloatCodec.bits : FloatCodec (Fin (2 ^ 32)) where
  pack value := IntFormat.I.pack value.val
  unpack bytes := (IntFormat.I.unpack bytes).map fun value => Fin.ofNat (2 ^ 32) value.toNat

def sampleReading : SensorReading (Fin (2 ^ 32)) := ⟨7, 0x42280000, [100, 66], 9999⟩

def sampleVehicle : VehicleData (Fin (2 ^ 32)) :=
  ⟨42, [77, 89], 0x3F400000, [32, 33, 31, 34], true, 15000⟩

theorem sampleReading_writable : sampleReading.Writable FloatCodec.bits where
  sensorId := by decide
  value := ⟨[0x42, 0x28, 0, 0], by decide +kernel, rfl, by decide +kernel⟩
  unit := ⟨[100, 66], by decide +kernel, by decide +kernel, by decide⟩
  timestamp := by decide

theorem sampleVehicle_writable : sampleVehicle.Writable FloatCodec.bits where
  vehicleId := by decide
  model := ⟨[77, 89], by decide +kernel, by decide +kernel, by decide⟩
  fuelLevel := ⟨[0x3F, 0x40, 0, 0], by decide +kernel, rfl, by decide +kernel⟩
  tirePressure := by decide
  mileage := by decide

theorem sampleVehicle_processed :
    Codec.utf8.encode (ComplexTypes.processed sampleVehicle.model sampleVehicle.vehicleId) =
      .ok "Processed vehicle data for MY (ID: 42)".toUTF8.data.toList := by
  decide +kernel

open ComplexTypes in
theorem complex_types_round_trip_sample :
    (∃ payload, serializeSensorReading FloatCodec.bits sampleReading = .ok payload ∧
      deserializeSensorReading FloatCodec.bits { data := payload } =
        (.ok sampleReading, { data := payload, pos := payload.length }) ∧
      ∀ back, handleEchoComplexStruct FloatCodec.bits (payload ++ back) = .ok payload) ∧
    (∃ payload,
      serializeSensorArray FloatCodec.bits [sampleReading, sampleReading] = .ok payload ∧
      readSensorArray FloatCodec.bits { data := payload } =
        (.ok [sampleReading, sampleReading], { data := payload, pos := payload.length })) ∧
    ∃ payload, serializeVehicleData FloatCodec.bits sampleVehicle = .ok payload ∧
      ∃ response, handleProcessVehicleData FloatCodec.bits payload = .ok response ∧
        Deserializer.readString .utf8 { data := response } =
          (.ok (processed sampleVehicle.model sampleVehicle.vehicleId),
            { data := response, pos := response.length }) := by
  obtain ⟨readings, arrays, vehicles⟩ := complex_types_round_trip FloatCodec.bits
  have short : ∀ bytes, serializeSensorReading FloatCodec.bits sampleReading = .ok bytes →
      bytes.length < 2 ^ 32 := by
    intro bytes written
    rw [serializeSensorReading_eq sampleReading_writable] at written
    rw [← Except.ok.inj written]
    decide +kernel
  refine ⟨readings sampleReading sampleReading_writable, ?_, ?_⟩
  · refine arrays _ (by decide) fun r member => ?_
    have same : r = sampleReading := by simpa using member
    rw [same]
    exact ⟨sampleReading_writable, short⟩
  · obtain ⟨payload, written, -, answered⟩ := vehicles sampleVehicle sampleVehicle_writable
    refine ⟨payload, written, answered rfl ?_⟩
    intro text encoded
    rw [← Except.ok.inj (sampleVehicle_processed.symm.trans encoded)]
    decide +kernel

end OpenSomeIp
