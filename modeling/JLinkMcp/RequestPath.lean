import JLinkMcp.RequestBody

namespace JLinkMcp

open Codec Host FieldValue

/-- What a request needs to come through to the serial port. -/
def ReachesPort (secrets : PyDict) : BridgeRequest → Prop
  | .receive r => r.timeoutMs.val ≤ 298000
  | .control r => Encodable secrets (.control r)
  | .status | .exchange _ => True

/-- The port gets a stream of at most 128 KiB, and waits between 0.05 and 300 seconds. -/
def PipelineSucceeds (request : BridgeRequest) (secrets : PyDict) (requestId : Int) : Prop :=
  ∃ body stream, encodeRequestBody request.modelDump request.operationArgument secrets = .ok body ∧
    encodeMessage body .request requestId = .ok stream ∧ stream ≠ [] ∧ stream.length ≤ 128 * 1024 ∧
    50 ≤ request.timeoutMs ∧ request.timeoutMs ≤ 300000 ∧
    requestStream request.modelDump request.operationArgument secrets request.timeoutMs requestId =
      .ok stream

theorem timeoutMs_ge (request : BridgeRequest) : 50 ≤ request.timeoutMs := by
  unfold BridgeRequest.timeoutMs
  split <;> omega

theorem pipelineSucceeds_of_encodable {request : BridgeRequest} {secrets : PyDict}
    (attached : Attached request secrets) (encodable : Encodable secrets request)
    (htimeout : request.timeoutMs ≤ 300000) {requestId : Int} (id_nonneg : 0 ≤ requestId)
    (id_le : requestId ≤ 0xFFFFFFFF) : PipelineSucceeds request secrets requestId := by
  have hbody := encodeRequestBody_eq attached encodable
  have hshort := (requestFields_fit attached).length_le request.operation
  have hmin := timeoutMs_ge request
  obtain ⟨stream, hstream, hne, hlen⟩ := encodeMessage_length hshort .request id_nonneg id_le
  refine ⟨_, stream, hbody, hstream, hne, hlen, hmin, htimeout, ?_⟩
  have hcheck : exchangeBinaryCheck stream 115200 request.timeoutMs 75 = .ok () := by
    rw [exchangeBinaryCheck, if_neg (by omega), if_neg (by omega), if_neg (by omega), if_neg]
    rintro (h | h)
    · exact hne h
    · omega
  rw [requestStream, hbody, Except.ok_bind]
  refine Eq.trans (congrArg (Except.bind · _) hstream) ?_
  rw [Except.ok_bind, hcheck]
  rfl

/-- Only a receive that waits longer than 298 seconds passes a duration out of range. -/
theorem timeoutMs_le_iff {request : BridgeRequest} {secrets : PyDict}
    (encodable : Encodable secrets request) :
    request.timeoutMs ≤ 300000 ↔ ReachesPort secrets request := by
  cases request with
  | status => simp [BridgeRequest.timeoutMs, ReachesPort]
  | exchange r => simp [BridgeRequest.timeoutMs, ReachesPort]
  | control r =>
    have hle : (BridgeRequest.control r).timeoutMs ≤ 300000 := by
      cases r <;> simp [BridgeRequest.timeoutMs]
    exact ⟨fun _ => encodable, fun _ => hle⟩
  | receive r =>
    simp only [BridgeRequest.timeoutMs, ReachesPort]
    omega

theorem encodeItems_append_error {operationName : String} {xs ys : PyDict} {items : List Tlv}
    {error : PyError} (hxs : encodeItems operationName xs = .ok items)
    (hys : encodeItems operationName ys = .error error) :
    encodeItems operationName (xs ++ ys) = .error error := by
  rw [encodeItems_append, hxs, hys]
  rfl

theorem encodeRequestBody_error {values rest renamed secrets : PyDict} {argument : Option String}
    {error : PyError} (operation : Firmware.Operation)
    (hname : operationOf values argument = (.ofString (operationName operation), rest))
    (hrenamed : renamedValues (operationName operation) rest = .ok renamed)
    (hitems : encodeItems (operationName operation) (renamed.update secrets) = .error error) :
    encodeRequestBody values argument secrets = .error error := by
  rw [encodeRequestBody, hname]
  dsimp only
  rw [operations_find]
  dsimp only
  rw [hrenamed, Except.ok_bind, hitems]
  rfl

/-- The address counts as an integer field of one byte, which no text can be packed into. -/
theorem bleConnect_error (r : BleConnectRequest) :
    encodeRequestBody r.modelDump none [] =
      .error (.structError "required argument is not an integer") :=
  encodeRequestBody_error .bleConnect rfl rfl rfl

/-- `local_port` has a width and a number, but no entry in `FIELD_NAMES`. -/
theorem wifiSocketOpen_error (r : WifiSocketOpenRequest) (local_set : r.localPort.isSome) :
    encodeRequestBody r.modelDump none [] =
      .error (.bridgeWire "wire field is not assigned: local_port") := by
  obtain ⟨protocol, host, port, localPort⟩ := r
  cases localPort with
  | none => cases local_set
  | some localPort =>
    have hbefore : Encodes "wifi_socket_open"
        [("protocol", .ofString protocol.value), ("host", .ofText host)]
        [(.socketProtocol, number protocol.number), (.host, ofText host)] :=
      .cons (by cases protocol <;> rfl) (.cons (.textField (by decide) (by decide) _) .nil)
    have hitems : encodeItems "wifi_socket_open"
        ([("protocol", .ofString protocol.value), ("host", .ofText host)] ++
          [("local_port", .ofInt localPort), ("port_network", .ofInt port)]) =
        .error (.bridgeWire "wire field is not assigned: local_port") :=
      encodeItems_append_error hbefore rfl
    exact encodeRequestBody_error .wifiSocketOpen rfl rfl hitems

theorem encodeItems_surrogate {name : String} {text : PyStr} {values : PyDict}
    (hname : name = "ssid" ∨ name = "password") (surrogate : ¬text.all isScalar = true) :
    encodeItems "wifi_connect" ((name, .str text) :: values) = .error .unicodeEncodeError := by
  rcases hname with rfl | rfl
  all_goals
    rw [encodeItems, if_neg (by decide), encodeValue, if_neg (by decide),
      scalar_of_surrogate (by decide) (by decide) (by decide) surrogate]
    rfl

/-- A lone surrogate passes the profile model and stops the request. -/
theorem wifiConnect_error (r : WifiConnectRequest) (profile : WifiCredentialProfile)
    (surrogate : ¬(profile.ssid.val.all isScalar = true ∧ profile.password.val.all isScalar = true)) :
    encodeRequestBody r.modelDump none
      [("ssid", .ofText profile.ssid), ("password", .ofText profile.password)] =
      .error .unicodeEncodeError := by
  have hlen := r.profile.property.2.2
  have hprofile : Encodes "wifi_connect" [("profile", .ofText r.profile)] [(.profile, ofText r.profile)] :=
    .text (by decide) _ (profileName_scalars _) (by omega)
  suffices hitems : encodeItems "wifi_connect" ([("profile", .ofText r.profile)] ++
      [("ssid", .ofText profile.ssid), ("password", .ofText profile.password)]) =
      .error .unicodeEncodeError from encodeRequestBody_error .wifiConnect rfl rfl hitems
  refine encodeItems_append_error hprofile ?_
  by_cases hssid : profile.ssid.val.all isScalar = true
  · have hbound := profile.ssid.property.2
    have hsent : Encodes "wifi_connect" [("ssid", .ofText profile.ssid)] [(.ssid, ofText profile.ssid)] :=
      .text (by decide) _ hssid (by omega)
    exact encodeItems_append_error hsent
      (encodeItems_surrogate (.inr rfl) fun h => surrogate ⟨hssid, h⟩)
  · exact encodeItems_surrogate (.inl rfl) hssid

/-- A request is encoded only when it is `Encodable`. -/
theorem encodable_of_encoded {request : BridgeRequest} {secrets : PyDict} {body : Bytes}
    (attached : Attached request secrets)
    (h : encodeRequestBody request.modelDump request.operationArgument secrets = .ok body) :
    Encodable secrets request := by
  cases request with
  | status | exchange r | receive r =>
    obtain rfl := attached_nil (fun _ => rfl) attached
    simp [Encodable]
  | control r =>
    cases r with
    | wifiConnect r =>
      obtain ⟨profile, rfl⟩ := attached_wifi attached
      by_cases hscalars : profile.ssid.val.all isScalar = true ∧ profile.password.val.all isScalar = true
      · intro item hitem text htext
        rcases List.mem_pair.mp hitem with rfl | rfl
        · obtain rfl := PyValue.str.inj htext
          exact hscalars.1
        · obtain rfl := PyValue.str.inj htext
          exact hscalars.2
      · exact absurd ((wifiConnect_error r profile hscalars).symm.trans h) (by simp)
    | wifiSocketOpen r =>
      obtain rfl := attached_nil (fun _ => rfl) attached
      cases hlocal : r.localPort with
      | none => exact hlocal
      | some localPort =>
        exact absurd ((wifiSocketOpen_error r (by rw [hlocal]; rfl)).symm.trans h) (by simp)
    | bleConnect r =>
      obtain rfl := attached_nil (fun _ => rfl) attached
      exact absurd ((bleConnect_error r).symm.trans h) (by simp)
    | blePair r =>
      rcases attached_pair attached with ⟨-, rfl⟩ | ⟨profile, rfl⟩
      · simp [Encodable]
      · intro item hitem text htext
        obtain rfl := List.mem_singleton.mp hitem
        obtain rfl := PyValue.str.inj htext
        exact passkey_scalars profile
    | _ =>
      obtain rfl := attached_nil (fun _ => rfl) attached
      simp [Encodable]

/-- A validated request reaches the serial port exactly when it is no `ble_connect`, names no local
port, its secrets have no lone surrogate and it waits no longer than 298 seconds. -/
theorem pipelineSucceeds_iff_reachesPort {request : BridgeRequest} {secrets : PyDict}
    (attached : Attached request secrets) {requestId : Int} (id_nonneg : 0 ≤ requestId)
    (id_le : requestId ≤ 0xFFFFFFFF) :
    PipelineSucceeds request secrets requestId ↔ ReachesPort secrets request := by
  constructor
  · rintro ⟨body, stream, hbody, -, -, -, -, htimeout, -⟩
    exact (timeoutMs_le_iff (encodable_of_encoded attached hbody)).mp htimeout
  · intro hreaches
    have encodable : Encodable secrets request := by
      cases request with
      | control r => exact hreaches
      | status | exchange r | receive r =>
        obtain rfl := attached_nil (fun _ => rfl) attached
        simp [Encodable]
    exact pipelineSucceeds_of_encodable attached encodable
      ((timeoutMs_le_iff encodable).mpr hreaches) id_nonneg id_le

def benchProfile : WifiCredentialProfile :=
  ⟨⟨PyStr.ofString "bench", by decide⟩, ⟨PyStr.ofString "correct horse", by decide⟩⟩

/-- A request that takes the two secrets of a profile with it. -/
theorem pipelineSucceeds_iff_reachesPort_wifiConnect :
    PipelineSucceeds (.control (.wifiConnect ⟨⟨PyStr.ofString "lab", by decide⟩⟩))
      [("ssid", .ofText benchProfile.ssid), ("password", .ofText benchProfile.password)] 7 := by
  have attached : Attached (.control (.wifiConnect ⟨⟨PyStr.ofString "lab", by decide⟩⟩))
      [("ssid", .ofText benchProfile.ssid), ("password", .ofText benchProfile.password)] :=
    ⟨.ok ⟨[(PyStr.ofString "lab", benchProfile)], []⟩, rfl⟩
  refine (pipelineSucceeds_iff_reachesPort attached (by decide) (by decide)).mpr fun item hitem text htext => ?_
  rcases List.mem_pair.mp hitem with rfl | rfl
  · obtain rfl := PyValue.str.inj htext
    decide
  · obtain rfl := PyValue.str.inj htext
    decide

/-- `00:11:22:33:44:55` -/
def someAddress : BleAddress :=
  ⟨[48, 48, 58, 49, 49, 58, 50, 50, 58, 51, 51, 58, 52, 52, 58, 53, 53], by decide, by decide⟩

theorem bleConnect_never_sent :
    ¬∀ request secrets, Attached request secrets → ∀ requestId : Int, 0 ≤ requestId →
      requestId ≤ 0xFFFFFFFF → PipelineSucceeds request secrets requestId := by
  intro h
  have hsent := h (.control (.bleConnect ⟨someAddress⟩)) [] ⟨.ok ⟨[], []⟩, rfl⟩ 1 (by decide) (by decide)
  obtain ⟨body, stream, hbody, -⟩ := hsent
  exact absurd ((bleConnect_error ⟨someAddress⟩).symm.trans hbody) (by simp)

end JLinkMcp
