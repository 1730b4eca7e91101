import JLinkMcp.RequestSizes
import JLinkMcp.WireChecks

namespace JLinkMcp.Bridge

open Host Audit

/-- Two runs with the same serial outcome and response size, whose responses have the same sizes and
status or fail in the same check. -/
def SameOutcome (depth : Nat) (run run' : Run) : Prop :=
  match run.exchange, run'.exchange with
  | .limitExceeded observed, .limitExceeded observed' => observed = observed'
  | .failed typeName, .failed typeName' => typeName = typeName'
  | .received raw, .received raw' => raw.length = raw'.length ∧
    match decodeAnswer depth run.requestId raw, decodeAnswer depth run'.requestId raw' with
    | .ok answer, .ok answer' => answer.segments = answer'.segments ∧
      answer.responseBody.length = answer'.responseBody.length ∧
      answer.response.status = answer'.response.status
    | .error error, .error error' => decodingCheck error = decodingCheck error'
    | _, _ => False
  | _, _ => False

section runs

variable {sha256 : Bytes → PyStr} {depth : Nat} {request : Request} {run run' : Run}
  {result result' : CommandResult}

theorem view_of_request (secret : run.secretsToSend ≠ [])
    (h : run.requestLocked sha256 depth request = .ok result) :
    ∃ view, run.view depth request = .ok view ∧ unstamped result = view.result request.port := by
  have hview : (run.requestLocked sha256 depth request).map unstamped =
      (run.view depth request).map (View.result request.port) := requestLocked_view secret
  rw [h] at hview
  cases hrun : run.view depth request with
  | error e =>
    rw [hrun] at hview
    cases hview
  | ok view =>
    rw [hrun] at hview
    exact ⟨view, rfl, Except.ok.inj hview⟩

/-- The body and the stream that a view stands for. -/
theorem view_parts {view : View} (h : run.view depth request = .ok view) :
    ∃ body stream, run.body request = .ok body ∧ encodeMessage body .request run.requestId = .ok stream ∧
      run.replyView depth = .ok view.reply ∧ view.bodyBytes = body.length ∧ view.requestBytes = stream.length := by
  rw [Run.view] at h
  obtain ⟨body, hbody, h⟩ := Except.then_ok h
  obtain ⟨stream, hstream, h⟩ := Except.then_ok h
  obtain ⟨_, _, h⟩ := Except.then_ok h
  obtain ⟨reply, hreply, h⟩ := Except.then_ok h
  cases h
  exact ⟨body, stream, hbody, hstream, hreply, rfl, rfl⟩

theorem value_inj {type type' : MessageType} (h : type.value = type'.value) : type = type' := by
  have hback := congrArg MessageType.ofValue? h
  rw [MessageType.ofValue?_value, MessageType.ofValue?_value] at hback
  exact Option.some.inj hback

/-- Replies of one outcome are the same exactly where the received bytes agree in the numbers that are shown. -/
theorem replies_eq_iff {reply reply' : ReplyView} (outcome : SameOutcome depth run run')
    (h : run.replyView depth = .ok reply) (h' : run'.replyView depth = .ok reply') :
    reply = reply' ↔ shownNumbers depth run.requestId run.exchange.raw =
      shownNumbers depth run'.requestId run'.exchange.raw := by
  have hnothing : ∀ requestId, shownNumbers depth requestId [] = [] := fun _ => shownNumbers_of_empty rfl
  rw [Run.replyView] at h h'
  rw [SameOutcome] at outcome
  cases hexchange : run.exchange <;> cases hexchange' : run'.exchange <;>
    rw [hexchange, hexchange'] at outcome <;> rw [hexchange] at h <;> rw [hexchange'] at h'
  case limitExceeded.limitExceeded =>
    cases h
    cases h'
    exact iff_of_true (congrArg ReplyView.limitExceeded outcome) ((hnothing _).trans (hnothing _).symm)
  case failed.failed =>
    cases h
    cases h'
    exact iff_of_true (congrArg ReplyView.failed outcome) ((hnothing _).trans (hnothing _).symm)
  case received.received raw raw' =>
    obtain ⟨hlength, outcome⟩ := outcome
    dsimp only [Exchange.raw] at h h' ⊢
    cases hanswer : decodeAnswer depth run.requestId raw with
    | ok answer =>
      cases hanswer' : decodeAnswer depth run'.requestId raw' with
      | ok answer' =>
        rw [hanswer, hanswer'] at outcome
        obtain ⟨hsegments, hbody, hstatus⟩ := outcome
        rw [hanswer] at h
        rw [hanswer'] at h'
        cases h
        cases h'
        rw [shownNumbers_of_ok hanswer, shownNumbers_of_ok hanswer', hlength, hsegments, hbody, hstatus]
        constructor
        · intro h
          rw [(ReplyView.answered.inj h).2.1]
        · intro h
          rw [value_inj (List.singleton_inj.mp h)]
      | error error' =>
        rw [hanswer, hanswer'] at outcome
        cases outcome
    | error error =>
      cases hanswer' : decodeAnswer depth run'.requestId raw' with
      | ok answer' =>
        rw [hanswer, hanswer'] at outcome
        cases outcome
      | error error' =>
        rw [hanswer, hanswer'] at outcome
        rw [hanswer] at h
        rw [hanswer'] at h'
        have htype : wireTypeName error = wireTypeName error' := congrArg Prod.fst outcome
        dsimp only at h h'
        split at h
        next hwire =>
          split at h'
          next hwire' =>
            cases h
            cases h'
            rw [← told_iff (told_decodeAnswer hanswer hwire) (told_decodeAnswer hanswer' hwire') outcome,
              hlength, htype]
            exact ⟨fun h => (ReplyView.undecodable.inj h).2.2, fun h => by rw [h]⟩
          next => cases h'
        next => cases h
  all_goals exact outcome.elim

/-- Two runs of a request with secrets that only differ in the secrets and in the received content have the
same result, but for ids and times, if and only if their payloads are padded alike, their frames have as many
full runs, and the received bytes agree in the numbers that are shown. -/
theorem secretResults_eq_iff (secret : run.secretsToSend ≠ [])
    (shape : SameShape run.secretsToSend run'.secretsToSend) (outcome : SameOutcome depth run run')
    (h : run.requestLocked sha256 depth request = .ok result)
    (h' : run'.requestLocked sha256 depth request = .ok result') :
    unstamped result = unstamped result' ↔
      base64Padding run.secretsToSend = base64Padding run'.secretsToSend ∧
        run.fullRuns request = run'.fullRuns request ∧
        shownNumbers depth run.requestId run.exchange.raw =
          shownNumbers depth run'.requestId run'.exchange.raw := by
  have secret' : run'.secretsToSend ≠ [] := by
    intro hnone
    rw [hnone] at shape
    cases hsecrets : run.secretsToSend with
    | nil => exact secret hsecrets
    | cons item rest =>
      rw [hsecrets] at shape
      cases shape
  obtain ⟨view, hview, hresult⟩ := view_of_request secret h
  obtain ⟨view', hview', hresult'⟩ := view_of_request secret' h'
  obtain ⟨body, stream, hbody, hstream, hreply, hbodyBytes, hrequestBytes⟩ := view_parts hview
  obtain ⟨body', stream', hbody', hstream', hreply', hbodyBytes', hrequestBytes'⟩ := view_parts hview'
  rw [hresult, hresult', ← replies_eq_iff outcome hreply hreply', ← and_assoc,
    ← sent_eq_iff shape hbody hbody' hstream hstream', ← hbodyBytes, ← hbodyBytes', ← hrequestBytes,
    ← hrequestBytes']
  constructor
  · intro hequal
    rw [view_of_result hequal]
    exact ⟨⟨rfl, rfl⟩, rfl⟩
  · rintro ⟨⟨hbody, hrequest⟩, hreply⟩
    cases view
    cases view'
    cases hbody
    cases hrequest
    cases hreply
    rfl

end runs

/-- The test's request: `get_status` with a password. -/
def statusRequest : Request :=
  ⟨PyStr.ofString "/dev/tty-test", [("operation", .ofString "get_status")], none, 5000⟩

/-- One frame around a byte that the device sent, behind the magic bytes and with the CRC 0. -/
def receivedFrame (magicBytes : Bytes) (content : UInt8) : Bytes :=
  cobsEncode (magicBytes ++ [1, 2, 5, 0, 0, 0, 0, 0, 1, 0, 1, 0, 0, 0, 0, 0, content]) ++ [0]

def statusRun (secret : String) (raw : Bytes) : Run :=
  ⟨[("password", .ofString secret)], 5, .received raw, ⟨[], [], [], 0⟩⟩

theorem statusRun_ok (secret : String) (raw : Bytes)
    (h : ((statusRun secret raw).requestLocked (fun _ => []) 10 statusRequest).toBool = true) :
    ∃ result, (statusRun secret raw).requestLocked (fun _ => []) 10 statusRequest = .ok result := by
  cases hrun : (statusRun secret raw).requestLocked (fun _ => []) 10 statusRequest with
  | error e =>
    rw [hrun] at h
    cases h
  | ok result => exact ⟨result, rfl⟩

theorem decodeAnswer_of_stream {depth : Nat} {requestId : Int} {raw : Bytes} {error : PyError}
    (h : decodeStream raw = .error error) : decodeAnswer depth requestId raw = .error error := by
  rw [decodeAnswer, h]
  rfl

section refused

variable {depth : Nat} {run run' : Run} {raw raw' : Bytes} {error error' : PyError}

theorem sameOutcome_of_errors (h : run.exchange = .received raw) (h' : run'.exchange = .received raw')
    (length : raw.length = raw'.length) (herror : decodeAnswer depth run.requestId raw = .error error)
    (herror' : decodeAnswer depth run'.requestId raw' = .error error')
    (check : decodingCheck error = decodingCheck error') : SameOutcome depth run run' := by
  rw [SameOutcome, h, h']
  refine ⟨length, ?_⟩
  rw [herror, herror']
  exact check

theorem replyView_of_error (h : run.exchange = .received raw)
    (herror : decodeAnswer depth run.requestId raw = .error error) (wire : error.isWire = true) :
    run.replyView depth = .ok (.undecodable raw.length (wireTypeName error) (wireMessage error)) := by
  rw [Run.replyView, h]
  dsimp only
  rw [herror]
  dsimp only
  rw [if_pos wire]

end refused

/-- Two passwords and two received bytes behind a frame with the wrong magic bytes. -/
theorem secretResults_eq_iff_magic : ∃ result result',
    (statusRun "request-secret" (receivedFrame [0, 0, 0, 0] 65)).requestLocked (fun _ => []) 10
      statusRequest = .ok result ∧
    (statusRun "another-secret" (receivedFrame [0, 0, 0, 0] 66)).requestLocked (fun _ => []) 10
      statusRequest = .ok result' ∧ unstamped result = unstamped result' := by
  obtain ⟨result, h⟩ := statusRun_ok "request-secret" (receivedFrame [0, 0, 0, 0] 65) (by decide +kernel)
  obtain ⟨result', h'⟩ := statusRun_ok "another-secret" (receivedFrame [0, 0, 0, 0] 66) (by decide +kernel)
  have hfirst : decodeStream (receivedFrame [0, 0, 0, 0] 65) =
      .error (.bridgeWire "bridge frame magic mismatch") := by decide
  have hsecond : decodeStream (receivedFrame [0, 0, 0, 0] 66) =
      .error (.bridgeWire "bridge frame magic mismatch") := by decide
  have secret : (statusRun "request-secret" (receivedFrame [0, 0, 0, 0] 65)).secretsToSend ≠ [] :=
    List.cons_ne_nil _ _
  have shape : SameShape (statusRun "request-secret" (receivedFrame [0, 0, 0, 0] 65)).secretsToSend
      (statusRun "another-secret" (receivedFrame [0, 0, 0, 0] 66)).secretsToSend :=
    .cons ⟨rfl, _, _, rfl, rfl, by decide⟩ .nil
  have outcome : SameOutcome 10 (statusRun "request-secret" (receivedFrame [0, 0, 0, 0] 65))
      (statusRun "another-secret" (receivedFrame [0, 0, 0, 0] 66)) :=
    sameOutcome_of_errors rfl rfl (by decide) (decodeAnswer_of_stream hfirst)
      (decodeAnswer_of_stream hsecond) rfl
  have padding : base64Padding (statusRun "request-secret" (receivedFrame [0, 0, 0, 0] 65)).secretsToSend =
      base64Padding (statusRun "another-secret" (receivedFrame [0, 0, 0, 0] 66)).secretsToSend := by decide +kernel
  have runs : (statusRun "request-secret" (receivedFrame [0, 0, 0, 0] 65)).fullRuns statusRequest =
      (statusRun "another-secret" (receivedFrame [0, 0, 0, 0] 66)).fullRuns statusRequest := by decide +kernel
  have shown : shownNumbers 10 (statusRun "request-secret" (receivedFrame [0, 0, 0, 0] 65)).requestId
      (statusRun "request-secret" (receivedFrame [0, 0, 0, 0] 65)).exchange.raw =
        shownNumbers 10 (statusRun "another-secret" (receivedFrame [0, 0, 0, 0] 66)).requestId
          (statusRun "another-secret" (receivedFrame [0, 0, 0, 0] 66)).exchange.raw := by decide +kernel
  exact ⟨result, result', h, h', (secretResults_eq_iff secret shape outcome h h').mpr ⟨padding, runs, shown⟩⟩

/-- Two received bytes behind a frame with the wrong CRC: the error shows the CRC of what was received. -/
theorem secretResults_show_crc : ¬∀ (sha256 : Bytes → PyStr) (depth : Nat) (request : Request)
    (run run' : Run) (result result' : CommandResult), run.secretsToSend ≠ [] →
    SameShape run.secretsToSend run'.secretsToSend → SameOutcome depth run run' →
    run.requestLocked sha256 depth request = .ok result →
    run'.requestLocked sha256 depth request = .ok result' → unstamped result = unstamped result' := by
  intro claim
  obtain ⟨result, h⟩ := statusRun_ok "request-secret" (receivedFrame magic 65) (by decide +kernel)
  obtain ⟨result', h'⟩ := statusRun_ok "request-secret" (receivedFrame magic 66) (by decide +kernel)
  have hfirst : decodeStream (receivedFrame magic 65) =
      .error (.bridgeCrc "bridge CRC mismatch: expected 0x00000000, got 0x7C146095") := by decide +kernel
  have hsecond : decodeStream (receivedFrame magic 66) =
      .error (.bridgeCrc "bridge CRC mismatch: expected 0x00000000, got 0xE51D312F") := by decide +kernel
  have secret : (statusRun "request-secret" (receivedFrame magic 65)).secretsToSend ≠ [] := List.cons_ne_nil _ _
  have secret' : (statusRun "request-secret" (receivedFrame magic 66)).secretsToSend ≠ [] := List.cons_ne_nil _ _
  have shape : SameShape (statusRun "request-secret" (receivedFrame magic 65)).secretsToSend
      (statusRun "request-secret" (receivedFrame magic 66)).secretsToSend :=
    .cons ⟨rfl, _, _, rfl, rfl, rfl⟩ .nil
  have outcome : SameOutcome 10 (statusRun "request-secret" (receivedFrame magic 65))
      (statusRun "request-secret" (receivedFrame magic 66)) :=
    sameOutcome_of_errors rfl rfl (by decide) (decodeAnswer_of_stream hfirst)
      (decodeAnswer_of_stream hsecond) (by decide)
  have hequal := claim _ _ _ _ _ result result' secret shape outcome h h'
  obtain ⟨view, hview, hresult⟩ := view_of_request secret h
  obtain ⟨view', hview', hresult'⟩ := view_of_request secret' h'
  obtain ⟨-, -, -, -, hreply, -, -⟩ := view_parts hview
  obtain ⟨-, -, -, -, hreply', -, -⟩ := view_parts hview'
  rw [hresult, hresult'] at hequal
  rw [view_of_result hequal, ← hreply', replyView_of_error rfl (decodeAnswer_of_stream hfirst) rfl,
    replyView_of_error rfl (decodeAnswer_of_stream hsecond) rfl] at hreply
  have hmessage := (ReplyView.undecodable.inj (Except.ok.inj hreply)).2.2
  exact absurd hmessage (by decide)

end JLinkMcp.Bridge
