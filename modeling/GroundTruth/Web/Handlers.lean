/-
# The JSON POST handlers: `webui_api.c`

Eight handlers, each a `JsonHandler` that acts on its part of the device: the IP configuration, the
Modbus server, the IMU's offsets and switches, the pull-up of the I2C bus, and the OTA update by
URL.  Each makes one call of `httpd_req_recv`.

* `ipconfig_handle`: the first of them is the handler of `Tcpip/Web.lean`;
* `json_segmentation_iff`: a split makes no difference to any of them just when what arrives first
  is a JSON text already, or the handler refuses the whole body;
* `json_split`: a body cut in the middle is answered with 400.

What the environment has for a request is fixed, and nothing else runs meanwhile.
-/
import GroundTruth.Web.Json
import GroundTruth.Imu.Offset
import GroundTruth.Modbus.Server
import GroundTruth.Ota.Guard
import GroundTruth.Tcpip.Web

namespace GroundTruth.Web

open GroundTruth.Lib
open GroundTruth.Tcpip (CipTcpIpObject NvData NvWrite IpConfigJson Post PostBody PostReply
  postIpconfig)
open GroundTruth.Imu (ImuDevice ImuType postByteOffset postEnabled)
open GroundTruth.Modbus (Server Listening modbusTcpInit modbusTcpStart modbusTcpStop serverStep)
open GroundTruth.Ota (Guarded Resources)

/-! ## 1. The device, and what it has for a request -/

structure WebState where
  /-- `g_tcpip` -/
  tcpip : CipTcpIpObject
  tcpipNv : Option NvData
  modbusEnabled : Setting Bool
  modbus : Server
  imu : ImuDevice
  i2cPullup : Setting Bool
  ota : Guarded

structure Env where
  inetAton : Bytes → Option UInt32
  /-- the locks of `api_post_ipconfig_handler`, as in `Post` -/
  peek : Bool
  mutex : Bool
  taken : Bool
  /-- what the flash does -/
  write : NvWrite
  /-- what `modbus_tcp_init` and `modbus_tcp_start` get -/
  modbusMutex : Bool
  listening : Listening
  serverTask : Bool
  /-- what `ota_manager_start_update` gets -/
  ota : Resources
  /-- what is found where a string was that has been freed -/
  freed : Bytes → Bytes

/-- `httpd_resp_send_500`. -/
def httpdRespSend500 : Reply := ⟨500, .standard⟩

/-! ## 2. The handlers -/

/-- `api_post_ipconfig_handler`'s answers. -/
def ipconfigReply : PostReply → Reply
  | .ok => sendJsonResponse [("status", .text "ok"), ("message", .text
      "IP configuration saved successfully. Reboot required to apply changes.")] true
  | .noData => httpdRespSend500
  | .invalidJson => .badRequest "Invalid JSON"
  | .mutexCreationFailed => .serverError "Internal error: mutex creation failed"
  | .timeout => .serverError "Timeout accessing IP configuration"
  | .saveFailed => .serverError "Failed to save IP configuration"

/-- The items that it looks at. -/
def ipconfigItems (j : Json) : IpConfigJson :=
  ⟨j.bool "use_dhcp", j.string "ip_address", j.string "netmask", j.string "gateway",
    j.string "dns1", j.string "dns2"⟩

/-- What `postIpconfig` makes of a body. -/
def runIpconfig (env : Env) (body : PostBody) (s : WebState) : Reply × WebState :=
  let r := postIpconfig env.inetAton ⟨body, env.peek, env.mutex, env.taken, env.write⟩ s.tcpip
    s.tcpipNv
  (ipconfigReply r.1, { s with tcpip := r.2.1, tcpipNv := r.2.2 })

/-- `api_post_ipconfig_handler`. -/
def apiPostIpconfigHandler (env : Env) : JsonHandler WebState IpConfigJson where
  size := 512
  noData := ipconfigReply .noData
  invalidJson := ipconfigReply .invalidJson
  read j := .ok (ipconfigItems j)
  act items s := some (runIpconfig env (.json items) s)
  noData_status := rfl
  invalidJson_status := rfl
  read_status := by
    intro j r hr
    cases hr

/-- The four handlers that set a switch: what they do with it, and what they say if that fails and
if it does not. -/
def switchHandler (apply : Bool → WebState → Bool × WebState) (failure message : String) :
    JsonHandler WebState Bool where
  size := 128
  noData := httpdRespSend500
  invalidJson := .badRequest "Invalid JSON"
  read j :=
    match j.bool "enabled" with
    | some enabled => .ok enabled
    | none => .error (.badRequest "Missing or invalid 'enabled' field")
  act enabled s :=
    let (ok, s) := apply enabled s
    some (if ok = true then
        sendJsonResponse [("status", .text "ok"), ("enabled", .flag enabled),
          ("message", .text message)] true
      else .serverError failure, s)
  noData_status := rfl
  invalidJson_status := rfl
  read_status := by
    intro j r hr
    cases hb : j.bool "enabled" with
    | some enabled =>
      rw [hb] at hr
      cases hr
    | none =>
      rw [hb] at hr
      obtain rfl := Except.error.inj hr
      rfl

/-- `modbus_tcp_init` and `modbus_tcp_start`, or `modbus_tcp_stop`. -/
def applyModbus (env : Env) (enabled : Bool) (s : Server) : Server :=
  if enabled = true then
    let s := { s with mutex := s.mutex || env.modbusMutex }
    if s.mutex = false then s
    else if s.listen.isSome = true ∨ env.listening = .ok then
      modbusTcpStart env.serverTask (modbusTcpInit env.listening s)
    else { modbusTcpInit env.listening s with listen := none, undoing := s.undoing }
  else if s.mutex = true ∧ s.handle = true then
    (serverStep (modbusTcpStop s) (.stopped s.listen)).getD s
  else modbusTcpStop s

/-- `api_post_modbus_handler`. -/
def apiPostModbusHandler (env : Env) : JsonHandler WebState Bool :=
  switchHandler
    (fun enabled s =>
      let (ok, x) := s.modbusEnabled.post env.write enabled
      (ok, { s with
        modbusEnabled := x
        modbus := if ok = true then applyModbus env enabled s.modbus else s.modbus }))
    "Failed to save Modbus state" "Modbus state saved successfully"

/-- `api_post_mpu6050_enabled_handler`. -/
def apiPostMpu6050EnabledHandler (env : Env) : JsonHandler WebState Bool :=
  switchHandler
    (fun enabled s =>
      let (ok, imu) := postEnabled .mpu6050 env.write enabled s.imu
      (ok, { s with imu := imu }))
    "Failed to save MPU6050 state" "MPU6050 state saved successfully"

/-- `api_post_lsm6ds3_enabled_handler`. -/
def apiPostLsm6ds3EnabledHandler (env : Env) : JsonHandler WebState Bool :=
  switchHandler
    (fun enabled s =>
      let (ok, imu) := postEnabled .lsm6ds3 env.write enabled s.imu
      (ok, { s with imu := imu }))
    "Failed to save LSM6DS3 state" "LSM6DS3 state saved successfully"

/-- `api_post_i2c_pullup_handler`. -/
def apiPostI2cPullupHandler (env : Env) : JsonHandler WebState Bool :=
  switchHandler
    (fun enabled s =>
      let (ok, x) := s.i2cPullup.post env.write enabled
      (ok, { s with i2cPullup := x }))
    "Failed to save I2C pull-up setting"
    "I2C pull-up setting saved. Restart required for changes to take effect."

/-- The value that a byte offset handler takes, or its answer. -/
def readStartByte (j : Json) : Except Reply UInt8 :=
  match j.number "start_byte" with
  | none => .error (.badRequest "Missing or invalid 'start_byte' field")
  | some startByte =>
    if startByte > 12 then
      .error (.badRequest "Invalid start_byte (must be 0-12, uses 20 bytes)")
    else if startByte.toNat + imuDataSize > 32 then
      .error (.badRequest "Byte range exceeds assembly size")
    else .ok startByte

theorem readStartByte_status {j : Json} {r : Reply} (h : readStartByte j = .error r) :
    r.status = 400 := by
  unfold readStartByte at h
  split at h
  · obtain rfl := Except.error.inj h
    rfl
  · split at h
    · obtain rfl := Except.error.inj h
      rfl
    · split at h
      · obtain rfl := Except.error.inj h
        rfl
      · cases h

/-- The two handlers that set an offset. -/
def byteoffsetHandler (env : Env) (type : ImuType) (failure message : String) :
    JsonHandler WebState UInt8 where
  size := 128
  noData := httpdRespSend500
  invalidJson := .badRequest "Invalid JSON"
  read := readStartByte
  act startByte s :=
    let (ok, imu) := postByteOffset type env.write startByte s.imu
    some (if ok = true then
        sendJsonResponse [("status", .text "ok"), ("start_byte", .number startByte.toNat),
          ("end_byte", .number (startByte.toNat + 19)),
          ("range", .text (toString startByte.toNat ++ "-" ++ toString (startByte.toNat + 19))),
          ("message", .text message)] true
      else .serverError failure, { s with imu := imu })
  noData_status := rfl
  invalidJson_status := rfl
  read_status := fun _ _ => readStartByte_status

/-- `api_post_mpu6050_byteoffset_handler`. -/
def apiPostMpu6050ByteoffsetHandler (env : Env) : JsonHandler WebState UInt8 :=
  byteoffsetHandler env .mpu6050 "Failed to save MPU6050 byte offset"
    "MPU6050 byte offset saved successfully"

/-- `api_post_lsm6ds3_byteoffset_handler`. -/
def apiPostLsm6ds3ByteoffsetHandler (env : Env) : JsonHandler WebState UInt8 :=
  byteoffsetHandler env .lsm6ds3 "Failed to save LSM6DS3 byte offset"
    "LSM6DS3 byte offset saved successfully"

/-- `api_ota_update_handler`, for a request of the type `application/json`.  The URL lies in the
JSON object, and `cJSON_Delete` has freed that when the URL is used. -/
def apiOtaUpdateHandler (env : Env) : JsonHandler WebState Bytes where
  size := 256
  noData := sendJsonError "Failed to read request body" 500
  invalidJson := sendJsonError "Invalid JSON" 400
  read j :=
    match j.string "url" with
    | some url => .ok url
    | none => .error (sendJsonError "Missing or invalid URL" 400)
  act url s :=
    (s.ota.startUpdate env.ota (some (env.freed url))).map fun (success, ota) =>
      (sendJsonResponse
        (if success = true then
          [("status", .text "ok"), ("message", .text "OTA update started")]
        else [("status", .text "error"), ("message", .text "Failed to start OTA update")]) success,
        { s with ota := ota })
  noData_status := rfl
  invalidJson_status := rfl
  read_status := by
    intro j r hr
    cases hu : j.string "url" with
    | some url =>
      rw [hu] at hr
      cases hr
    | none =>
      rw [hu] at hr
      obtain rfl := Except.error.inj hr
      rfl

inductive Endpoint
  | ipconfig
  | modbus
  | mpu6050Byteoffset
  | lsm6ds3Byteoffset
  | mpu6050Enabled
  | lsm6ds3Enabled
  | i2cPullup
  | otaUpdate
  deriving DecidableEq, Repr

/-- The values that the handler acts on. -/
def Endpoint.Values : Endpoint → Type
  | .ipconfig => IpConfigJson
  | .modbus | .mpu6050Enabled | .lsm6ds3Enabled | .i2cPullup => Bool
  | .mpu6050Byteoffset | .lsm6ds3Byteoffset => UInt8
  | .otaUpdate => Bytes

/-- `webui_register_api_handlers`, the JSON POST handlers. -/
def Endpoint.handler (env : Env) : (e : Endpoint) → JsonHandler WebState e.Values
  | .ipconfig => apiPostIpconfigHandler env
  | .modbus => apiPostModbusHandler env
  | .mpu6050Byteoffset => apiPostMpu6050ByteoffsetHandler env
  | .lsm6ds3Byteoffset => apiPostLsm6ds3ByteoffsetHandler env
  | .mpu6050Enabled => apiPostMpu6050EnabledHandler env
  | .lsm6ds3Enabled => apiPostLsm6ds3EnabledHandler env
  | .i2cPullup => apiPostI2cPullupHandler env
  | .otaUpdate => apiOtaUpdateHandler env

/-! ## 3. What a split does -/

variable {env : Env} {parse : Bytes → Option Json} {body : Bytes}

/-- What `httpd_req_recv` and `cJSON_Parse` make of a request to the first handler. -/
def ipconfigBody (parse : Bytes → Option Json) (c : Conn) : PostBody :=
  match (c.recv 511).1 with
  | .data content =>
    match parse (cstr content) with
    | some j => .json (ipconfigItems j)
    | none => .invalidJson
  | .closed | .wouldBlock | .reset | .failed => .noData

/-- **The first handler** is `postIpconfig`, with the body as it has been received. -/
theorem ipconfig_handle (c : Conn) (s : WebState) :
    ((apiPostIpconfigHandler env).handle parse c s).result =
      some (runIpconfig env (ipconfigBody parse c) s) := by
  have hsize : (apiPostIpconfigHandler env).size - 1 = 511 := rfl
  rw [JsonHandler.handle, hsize, ipconfigBody]
  cases (c.recv 511).1 with
  | closed => rfl
  | wouldBlock => rfl
  | reset => rfl
  | failed => rfl
  | data content =>
    dsimp only [JsonHandler.onContent]
    cases parse (cstr content) with
    | none => rfl
    | some j => rfl

/-- **JSON requests in pieces.**  Status, state and values are those of the whole body just when
what the first call of `httpd_req_recv` returns is enough. -/
theorem json_segmentation_iff (env : Env) (e : Endpoint) (hparse : ReadsOne parse)
    (hfit : body.length ≤ (e.handler env).size - 1) (steps : List RecvStep) (s : WebState) :
    ((e.handler env).handle parse ⟨body, steps⟩ s).observed =
        ((e.handler env).handle parse ⟨body, []⟩ s).observed ↔
      (e.handler env).Enough parse body
        (Conn.recv ((e.handler env).size - 1) ⟨body, steps⟩).1 :=
  (e.handler env).observed_eq_iff hparse hfit steps s

/-! ## 4. A body in two pieces -/

/-- A text that begins with this object, and nothing else, as `cJSON_Parse` reads it. -/
def enabledText : Bytes := ascii "\x7b\"enabled\":true\x7d"

def parseEnabled (text : Bytes) : Option Json :=
  if enabledText <+: text then some fun key => if key = "enabled" then some (.bool true) else none
  else none

theorem parseEnabled_readsOne : ReadsOne parseEnabled where
  append := by
    intro text rest j hj
    unfold parseEnabled at hj ⊢
    split at hj
    · rename_i hfront
      rw [if_pos (hfront.trans (List.prefix_append text rest))]
      exact hj
    · cases hj

/-- Everything there is, and the writes are made. -/
def goodEnv : Env where
  inetAton := fun _ => none
  peek := true
  mutex := true
  taken := true
  write := .ok
  modbusMutex := true
  listening := .ok
  serverTask := true
  ota := Resources.good
  freed := id

def newState : WebState where
  tcpip := .default
  tcpipNv := none
  modbusEnabled := ⟨none, none⟩
  modbus := .initial
  imu := .boot ⟨⟨none, none⟩, ⟨none, none⟩, ⟨none, none⟩, ⟨none, none⟩⟩
  i2cPullup := ⟨none, none⟩
  ota := .powerOn

/-- The text, and the end of its line. -/
def enabledLine : Bytes := enabledText ++ [0x0D, 0x0A]

/-- Cut after the brace that ends the text, a body is as good as whole; cut before, it is not. -/
theorem json_segmentation_enabled :
    (((Endpoint.modbus.handler goodEnv).handle parseEnabled ⟨enabledLine, [.bytes 16]⟩
        newState).observed =
      ((Endpoint.modbus.handler goodEnv).handle parseEnabled ⟨enabledLine, []⟩
        newState).observed) ∧
    ¬((Endpoint.modbus.handler goodEnv).handle parseEnabled ⟨enabledLine, [.bytes 15]⟩
        newState).observed =
      ((Endpoint.modbus.handler goodEnv).handle parseEnabled ⟨enabledLine, []⟩
        newState).observed := by
  have hfit : enabledLine.length ≤ (Endpoint.modbus.handler goodEnv).size - 1 := by decide
  have hiff := json_segmentation_iff goodEnv .modbus parseEnabled_readsOne hfit
  constructor
  · exact (hiff [.bytes 16] newState).2 (Or.inl (by decide))
  · intro heq
    rcases (hiff [.bytes 15] newState).1 heq with hsome | hrefuses
    · revert hsome
      decide
    · obtain ⟨r, hr⟩ := hrefuses (fun key => if key = "enabled" then some (.bool true) else none)
        (if_pos (by decide))
      cases hr

/-- **A body in two pieces**: the Modbus server is not started, and the answer is 400. -/
theorem json_split :
    ¬ ∀ (env : Env) (e : Endpoint) (parse : Bytes → Option Json), ReadsOne parse →
      ∀ (body : Bytes), body.length ≤ (e.handler env).size - 1 →
      ∀ (steps : List RecvStep) (s : WebState),
        ((e.handler env).handle parse ⟨body, steps⟩ s).observed =
          ((e.handler env).handle parse ⟨body, []⟩ s).observed := by
  intro hall
  have hsame := hall goodEnv .modbus parseEnabled parseEnabled_readsOne enabledText (by decide)
    [.bytes 10] newState
  have hcut : ((Endpoint.modbus.handler goodEnv).handle parseEnabled ⟨enabledText, [.bytes 10]⟩
      newState).observed.2.map Prod.fst = some 400 := by decide
  have hwhole : ((Endpoint.modbus.handler goodEnv).handle parseEnabled ⟨enabledText, []⟩
      newState).observed.2.map Prod.fst = some 200 := by decide
  rw [hsame, hwhole] at hcut
  cases hcut

end GroundTruth.Web
