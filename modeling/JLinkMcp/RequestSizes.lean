import JLinkMcp.BridgeBackend

namespace JLinkMcp.Bridge

open Codec Host

section value

variable {name : String} {text text' : PyStr} {encoded encoded' : Bytes}

theorem structPack_length {width : Nat} {value : PyValue} (h : structPack width value = .ok encoded) :
    encoded.length = width := by
  unfold structPack at h
  split at h
  next =>
    split at h
    next =>
      cases h
      exact leBytes_length _ _
    next => cases h
  next =>
    cases h
    exact leBytes_length _ _
  next => cases h

theorem packScalar_number {n : Int} (h : packScalar name (.int n) = .ok encoded) :
    encoded.length = (fieldWidth name).getD 4 := by
  unfold packScalar at h
  unfold fieldWidth
  dsimp only at h
  split at h
  next hfield =>
    rw [if_pos hfield]
    exact structPack_length h
  next hfield =>
    rw [if_neg hfield]
    split at h
    next hfield =>
      rw [if_pos hfield]
      exact structPack_length h
    next hfield =>
      rw [if_neg hfield]
      split at h
      next hfield =>
        rw [if_pos hfield]
        exact structPack_length h
      next hfield =>
        rw [if_neg hfield]
        cases hpack : structPack 4 (.int n) with
        | error error =>
          rw [hpack] at h
          cases h
        | ok bytes =>
          rw [hpack] at h
          cases h
          exact structPack_length hpack

theorem packScalar_text (h : packScalar name (.str text) = .ok encoded) : encoded = utf8 text := by
  unfold packScalar at h
  dsimp only at h
  -- no number is made of a text
  split at h
  next => cases h
  next =>
    split at h
    next => cases h
    next =>
      split at h
      next => cases h
      next =>
        unfold encodeUtf8 at h
        split at h
        next =>
          rw [Except.ok_bind] at h
          split at h
          next => cases h
          next => exact (Except.ok.inj h).symm
        next => cases h

/-- The fields whose texts are sent as numbers: the pins and the enumerations. -/
def SentAsNumber (name : String) : Prop :=
  name = "pin" ∨ name = "chip_select" ∨ (enumValues.lookup name).isSome = true

theorem enumMapName_isSome (value : PyValue) :
    (enumValues.lookup (enumMapName name value)).isSome = (enumValues.lookup name).isSome := by
  unfold enumMapName
  split
  next h =>
    rw [h.1]
    rfl
  next => rfl

theorem enumNumber_text {mapName : String} {value : PyValue}
    (h : enumNumber name mapName (.str text) = .ok value) :
    ((enumValues.lookup mapName).isSome = true ∧ ∃ n : Nat, value = .ofNat n) ∨
      ((enumValues.lookup mapName).isSome = false ∧ value = .str text) := by
  unfold enumNumber at h
  dsimp only at h
  cases hlookup : enumValues.lookup mapName with
  | none =>
    rw [hlookup] at h
    cases h
    exact Or.inr ⟨rfl, rfl⟩
  | some mapping =>
    rw [hlookup] at h
    dsimp only at h
    split at h
    next item _ =>
      cases h
      exact Or.inl ⟨rfl, item.2, rfl⟩
    next => cases h

/-- A text is sent as a number of a width that its field fixes, or as its UTF-8. -/
theorem scalar_length (h : scalar name (.str text) = .ok encoded) :
    (SentAsNumber name ∧ encoded.length = (fieldWidth name).getD 4) ∨
      (¬SentAsNumber name ∧ encoded.length = (utf8 text).length) := by
  unfold scalar at h
  by_cases hpin : name = "pin" ∨ name = "chip_select"
  · rw [if_pos hpin] at h
    cases hnumber : pinNumber (.str text) with
    | error error =>
      rw [hnumber] at h
      cases h
    | ok n =>
      rw [hnumber] at h
      exact Or.inl ⟨hpin.imp_right Or.inl, @packScalar_number _ _ n h⟩
  · rw [if_neg hpin, Except.ok_bind] at h
    rw [not_or] at hpin
    cases hvalue : enumNumber name (enumMapName name (.str text)) (.str text) with
    | error error =>
      rw [hvalue] at h
      cases h
    | ok value =>
      rw [hvalue, Except.ok_bind] at h
      rcases enumNumber_text hvalue with ⟨hsome, n, rfl⟩ | ⟨hnone, rfl⟩
      · rw [enumMapName_isSome] at hsome
        exact Or.inl ⟨Or.inr (Or.inr hsome), packScalar_number h⟩
      · rw [enumMapName_isSome] at hnone
        refine Or.inr ⟨?_, congrArg List.length (packScalar_text h)⟩
        rintro (rfl | rfl | hsome)
        · exact hpin.1 rfl
        · exact hpin.2 rfl
        · rw [hnone] at hsome
          cases hsome

theorem payload_length {maximum : Nat} (h : decodeCanonicalBase64 text maximum = .ok encoded) :
    3 * (utf8 text).length = 4 * (encoded.length + text.count base64Pad) := by
  have htext := b64encode_of_decodeCanonicalBase64 h
  have hascii := b64encode_ascii encoded
  have hlength := b64encode_length encoded
  rw [htext] at hascii hlength
  rw [utf8_of_ascii hascii, List.length_map, hlength]

end value

/-- The `=` at the end of a base64 text. -/
def paddingOf : PyValue → Nat
  | .str text => text.count base64Pad
  | _ => 0

/-- The padding of the payload after a secret: the last one of the name stands. -/
def paddingAfter (padding : Nat) (item : String × PyValue) : Nat :=
  if item.1 = "data_base64" then paddingOf item.2 else padding

/-- The `=` at the end of the payload among the secrets. -/
def base64Padding (secrets : PyDict) : Nat := secrets.foldl paddingAfter 0

/-- The items of the payload. -/
def payloads (values : PyDict) : Nat := values.countP fun item => item.1 = "data_base64"

/-- What of the padding of the payload counts for an item of the name. -/
def paddingIn (name : String) (padding : Nat) : Nat := if name = "data_base64" then padding else 0

/-- Items of one name whose encodings are of the same size, with the padding of the payload. -/
def SameSize (padding padding' : Nat) (item item' : String × PyValue) : Prop :=
  item.1 = item'.1 ∧ ∀ encoded encoded', encodeValue item.1 item.2 = .ok encoded →
    encodeValue item'.1 item'.2 = .ok encoded' →
    encoded.length + paddingIn item.1 padding = encoded'.length + paddingIn item.1 padding'

section values

variable {padding padding' : Nat} {values values' secrets secrets' : PyDict} {item item' : String × PyValue}

/-- The padding concerns the payload alone. -/
theorem SameSize.other (h : SameSize padding padding' item item') (hname : item.1 ≠ "data_base64")
    (other other' : Nat) : SameSize other other' item item' := by
  refine ⟨h.1, fun encoded encoded' hok hok' => ?_⟩
  have hlength := h.2 encoded encoded' hok hok'
  rw [paddingIn, paddingIn, if_neg hname, if_neg hname] at hlength ⊢
  exact hlength

theorem sameSize_self (values : PyDict) : List.Forall₂ (SameSize 0 0) values values := by
  refine List.forall₂_same.mpr fun item _ => ⟨rfl, fun encoded encoded' hok hok' => ?_⟩
  cases hok.symm.trans hok'
  rfl

/-- Texts whose UTF-8 has the same length are sent in the same size, up to the padding of the payload. -/
theorem sameSize_text {name : String} {text text' : PyStr} (hsize : (utf8 text).length = (utf8 text').length) :
    SameSize (paddingAfter padding (name, .str text)) (paddingAfter padding' (name, .str text'))
      (name, .str text) (name, .str text') := by
  refine ⟨rfl, fun encoded encoded' hok hok' => ?_⟩
  dsimp only at hok hok' ⊢
  rw [encodeValue] at hok hok'
  by_cases hname : name = "data_base64"
  · rw [if_pos hname] at hok hok'
    have hlength := payload_length hok
    have hlength' := payload_length hok'
    rw [paddingIn, paddingIn, if_pos hname, if_pos hname, paddingAfter, paddingAfter, if_pos hname,
      if_pos hname, paddingOf, paddingOf]
    omega
  · rw [if_neg hname] at hok hok'
    rw [paddingIn, paddingIn, if_neg hname, if_neg hname]
    rcases scalar_length hok with ⟨hnumber, hlength⟩ | ⟨htext, hlength⟩
    · rcases scalar_length hok' with ⟨_, hlength'⟩ | ⟨htext, _⟩
      · rw [hlength, hlength']
      · exact absurd hnumber htext
    · rcases scalar_length hok' with ⟨hnumber, _⟩ | ⟨_, hlength'⟩
      · exact absurd hnumber htext
      · rw [hlength, hlength', hsize]

theorem any_of_sameSize (h : List.Forall₂ (SameSize padding padding') values values') (name : String) :
    (values.any fun item => item.1 = name) = values'.any fun item => item.1 = name := by
  induction h with
  | nil => rfl
  | cons hitem _ ih => rw [List.any_cons, List.any_cons, ih, hitem.1]

/-- A text that is set in both dictionaries takes the place of what stood under its name. -/
theorem sameSize_set (h : List.Forall₂ (SameSize padding padding') values values')
    (hitem : SameSize (paddingAfter padding item) (paddingAfter padding' item') item item') :
    List.Forall₂ (SameSize (paddingAfter padding item) (paddingAfter padding' item'))
      (values.set item.1 item.2) (values'.set item'.1 item'.2) := by
  obtain ⟨name, value⟩ := item
  obtain ⟨name', value'⟩ := item'
  obtain rfl : name = name' := hitem.1
  have keeps : ∀ {item item'}, SameSize padding padding' item item' → item.1 ≠ name →
      SameSize (paddingAfter padding (name, value)) (paddingAfter padding' (name, value')) item item' := by
    intro item item' hkept hother
    by_cases hname : name = "data_base64"
    · exact hkept.other (hname ▸ hother) _ _
    · rw [paddingAfter, paddingAfter, if_neg hname, if_neg hname]
      exact hkept
  rw [PyDict.set, PyDict.set, any_of_sameSize h name]
  split
  next =>
    refine List.forall₂_map_left_iff.mpr (List.forall₂_map_right_iff.mpr (h.imp fun item item' hkept => ?_))
    rw [← hkept.1]
    split
    next => exact hitem
    next hother => exact keeps hkept hother
  next hnone =>
    have hfree : ∀ found ∈ values, found.1 ≠ name := by
      intro found hfound hname
      rw [← any_of_sameSize h name, List.any_eq_true] at hnone
      exact hnone ⟨found, hfound, by simpa using hname⟩
    have hall := (List.forall₂_and_left _ _).mpr ⟨hfree, h⟩
    exact List.rel_append (hall.imp fun item item' hkept => keeps hkept.2 hkept.1) (.cons hitem .nil)

theorem sameSize_update (shape : SameShape secrets secrets')
    (h : List.Forall₂ (SameSize padding padding') values values') :
    List.Forall₂ (SameSize (secrets.foldl paddingAfter padding) (secrets'.foldl paddingAfter padding'))
      (values.update secrets) (values'.update secrets') := by
  induction shape generalizing values values' padding padding' with
  | nil => exact h
  | @cons secret secret' _ _ hsecret _ ih =>
    obtain ⟨name, value⟩ := secret
    obtain ⟨name', value'⟩ := secret'
    obtain ⟨hname, text, text', hvalue, hvalue', hsize⟩ := hsecret
    cases hname
    cases hvalue
    cases hvalue'
    exact ih (sameSize_set h (sameSize_text hsize))

/-- The items of two dictionaries of the same sizes take as many bytes, with the padding of every payload. -/
theorem encodeItems_length {operationName : String} {items items' : List Tlv}
    (h : List.Forall₂ (SameSize padding padding') values values')
    (hitems : encodeItems operationName values = .ok items)
    (hitems' : encodeItems operationName values' = .ok items') :
    (tlvBytes items).length + payloads values * padding =
      (tlvBytes items').length + payloads values * padding' := by
  induction h generalizing items items' with
  | nil =>
    cases hitems
    cases hitems'
    rw [payloads, List.countP_nil, Nat.zero_mul, Nat.zero_mul]
  | @cons item item' _ _ hitem _ ih =>
    obtain ⟨name, value⟩ := item
    obtain ⟨name', value'⟩ := item'
    obtain rfl : name = name' := hitem.1
    rw [encodeItems] at hitems hitems'
    by_cases hprofile : name = "passkey_profile"
    · rw [if_pos hprofile] at hitems hitems'
      have hname : name ≠ "data_base64" := by
        rw [hprofile]
        decide
      rw [payloads, List.countP_cons_of_neg (by simpa using hname)]
      exact ih hitems hitems'
    · rw [if_neg hprofile] at hitems hitems'
      obtain ⟨fieldId, hfield, hitems⟩ := Except.then_ok hitems
      obtain ⟨encoded, hencoded, hitems⟩ := Except.then_ok hitems
      obtain ⟨rest, hrest, hitems⟩ := Except.then_ok hitems
      obtain ⟨fieldId', hfield', hitems'⟩ := Except.then_ok hitems'
      obtain ⟨encoded', hencoded', hitems'⟩ := Except.then_ok hitems'
      obtain ⟨rest', hrest', hitems'⟩ := Except.then_ok hitems'
      cases hitems
      cases hitems'
      have hlength := hitem.2 encoded encoded' hencoded hencoded'
      have ih := ih hrest hrest'
      rw [tlvBytes_length_cons, tlvBytes_length_cons]
      rw [payloads] at ih ⊢
      rw [List.countP_cons]
      rw [paddingIn, paddingIn] at hlength
      dsimp only at hlength ⊢
      split at hlength
      next hname =>
        rw [if_pos (by simpa using hname), Nat.add_mul, Nat.add_mul]
        omega
      next hname =>
        rw [if_neg (by simpa using hname), Nat.add_zero]
        omega

theorem sameNames (shape : SameShape secrets secrets') : secrets.map Prod.fst = secrets'.map Prod.fst := by
  induction shape with
  | nil => rfl
  | cons hsecret _ ih => rw [List.map_cons, List.map_cons, ih, hsecret.1]

theorem base64Padding_none (hnone : "data_base64" ∉ secrets.map Prod.fst) : base64Padding secrets = 0 := by
  have hfold : ∀ padding, secrets.foldl paddingAfter padding = padding := by
    induction secrets with
    | nil => exact fun _ => rfl
    | cons secret secrets ih =>
      rw [List.map_cons, List.mem_cons, not_or] at hnone
      intro padding
      rw [List.foldl_cons, paddingAfter, if_neg (Ne.symm hnone.1)]
      exact ih hnone.2 padding
  exact hfold 0

theorem mem_names_set {name : String} {value : PyValue} {found : String} :
    found ∈ (values.set name value).map Prod.fst ↔ found = name ∨ found ∈ values.map Prod.fst := by
  rw [PyDict.set]
  split
  next h =>
    obtain ⟨item, hitem, hname⟩ := List.any_eq_true.mp h
    have hname : item.1 = name := by simpa using hname
    have hnames : (values.map fun item => if item.1 = name then (name, value) else item).map Prod.fst =
        values.map Prod.fst := by
      rw [List.map_map]
      refine List.map_congr_left fun item _ => ?_
      rw [Function.comp_apply]
      split
      next hsame => exact hsame.symm
      next => rfl
    rw [hnames, or_iff_right_of_imp]
    rintro rfl
    exact List.mem_map.mpr ⟨item, hitem, hname⟩
  next =>
    rw [List.map_append, List.mem_append, List.map_singleton, List.mem_singleton, or_comm]

theorem mem_names_update {found : String} (h : found ∈ values.map Prod.fst ∨ found ∈ secrets.map Prod.fst) :
    found ∈ (values.update secrets).map Prod.fst := by
  induction secrets generalizing values with
  | nil => exact h.resolve_right List.not_mem_nil
  | cons secret secrets ih =>
    refine @ih (values.set secret.1 secret.2) ?_
    rw [mem_names_set]
    rw [List.map_cons, List.mem_cons] at h
    tauto

theorem payloads_pos (h : "data_base64" ∈ values.map Prod.fst) : 0 < payloads values := by
  obtain ⟨item, hitem, hname⟩ := List.mem_map.mp h
  exact List.countP_pos_iff.mpr ⟨item, hitem, by simpa using hname⟩

end values

section body

variable {values secrets secrets' : PyDict} {operation : Option String} {body body' : Bytes}

/-- What a body is made of: the operation, and the values under the secrets. -/
theorem encodeRequestBody_ok (h : encodeRequestBody values operation secrets = .ok body) :
    ∃ item renamed items, (operations.find? fun item =>
        PyValue.ofString item.1 = (operationOf values operation).1) = some item ∧
      renamedValues item.1 (operationOf values operation).2 = .ok renamed ∧
      encodeItems item.1 (renamed.update secrets) = .ok items ∧
      body = tlvBytes ((FieldId.operation.toNat, leBytes 2 item.2) :: items) := by
  unfold encodeRequestBody at h
  dsimp only at h
  split at h
  next => cases h
  next operationName operationCode hfind =>
    obtain ⟨renamed, hrenamed, h⟩ := Except.then_ok h
    obtain ⟨items, hitems, h⟩ := Except.then_ok h
    obtain ⟨-, -, -, hbody⟩ := encodeTlvsFrom_ok h
    exact ⟨(operationName, operationCode), renamed, items, hfind, hrenamed, hitems, hbody⟩

/-- The bodies of one request under two sets of secrets of one shape are of the same size exactly where their
payloads are padded alike. -/
theorem body_length_eq_iff (shape : SameShape secrets secrets')
    (h : encodeRequestBody values operation secrets = .ok body)
    (h' : encodeRequestBody values operation secrets' = .ok body') :
    body.length = body'.length ↔ base64Padding secrets = base64Padding secrets' := by
  obtain ⟨item, renamed, items, hfind, hrenamed, hitems, rfl⟩ := encodeRequestBody_ok h
  obtain ⟨item', renamed', items', hfind', hrenamed', hitems', rfl⟩ := encodeRequestBody_ok h'
  cases hfind.symm.trans hfind'
  cases hrenamed.symm.trans hrenamed'
  have hlength := encodeItems_length (sameSize_update shape (sameSize_self renamed)) hitems hitems'
  change _ + _ * base64Padding secrets = _ + _ * base64Padding secrets' at hlength
  rw [tlvBytes_length_cons, tlvBytes_length_cons]
  by_cases hpayload : "data_base64" ∈ secrets.map Prod.fst
  · have hpos := payloads_pos (@mem_names_update renamed _ _ (Or.inr hpayload))
    constructor
    · intro hsame
      exact Nat.eq_of_mul_eq_mul_left hpos (by omega)
    · intro hpadding
      rw [hpadding] at hlength
      omega
  · have hnone := base64Padding_none hpayload
    have hnone' := base64Padding_none (sameNames shape ▸ hpayload)
    rw [hnone, hnone'] at hlength ⊢
    exact iff_of_true (by omega) rfl

/-- Around a payload every frame takes its header, the last code byte, the delimiter and a code byte for every
full run. -/
theorem frames_length {frames : List WireFrame} {encoded : List Bytes}
    (h : frames.mapM encodeFrame = .ok encoded) :
    encoded.flatten.length = (frames.flatMap WireFrame.payload).length + 22 * frames.length +
      (frames.map fun frame => fullRuns (rawFrame frame)).sum := by
  induction frames generalizing encoded with
  | nil =>
    cases h
    rfl
  | cons frame frames ih =>
    rw [List.mapM_cons] at h
    obtain ⟨first, hfirst, h⟩ := Except.then_ok h
    obtain ⟨rest, hrest, h⟩ := Except.then_ok h
    cases h
    have ih := ih hrest
    have hlength := rawFrame_length frame
    rw [headerSize] at hlength
    rw [(encodeFrame_ok hfirst).2, List.flatten_cons, List.length_append, List.length_append, stuff_length,
      List.length_singleton, List.flatMap_cons, List.length_append, List.length_cons, List.map_cons,
      List.sum_cons]
    omega

theorem encodeMessage_size {type : MessageType} {requestId : Int} {stream : Bytes}
    (h : encodeMessage body type requestId = .ok stream) :
    stream.length = body.length + 22 * (messageChunks body).length +
      ((messageFrames body type requestId).map fun frame => fullRuns (rawFrame frame)).sum := by
  unfold encodeMessage at h
  split at h
  next => cases h
  next =>
    cases hframes : (messageFrames body type requestId).mapM encodeFrame with
    | error error =>
      rw [hframes] at h
      cases h
    | ok encoded =>
      rw [hframes] at h
      cases h
      have hlength := frames_length hframes
      rw [messageFrames_payload, messageFrames_length] at hlength
      exact hlength

end body

/-- The runs of 254 bytes without a zero in the frames that carry the request. -/
def Run.fullRuns (request : Request) (run : Run) : Nat :=
  match run.body request with
  | .ok body =>
    ((messageFrames body .request run.requestId).map fun frame => Codec.fullRuns (rawFrame frame)).sum
  | .error _ => 0

section sent

variable {request : Request} {run run' : Run} {body body' stream stream' : Bytes}

/-- Two runs of one request send as many bytes exactly where their payloads are padded alike and their frames
have as many full runs. -/
theorem sent_eq_iff (shape : SameShape run.secretsToSend run'.secretsToSend)
    (hbody : run.body request = .ok body) (hbody' : run'.body request = .ok body')
    (hstream : encodeMessage body .request run.requestId = .ok stream)
    (hstream' : encodeMessage body' .request run'.requestId = .ok stream') :
    (body.length = body'.length ∧ stream.length = stream'.length) ↔
      base64Padding run.secretsToSend = base64Padding run'.secretsToSend ∧
        run.fullRuns request = run'.fullRuns request := by
  rw [← body_length_eq_iff shape hbody hbody']
  refine and_congr_right fun hsame => ?_
  have hcount : (messageChunks body).length = (messageChunks body').length := by
    rw [messageChunks_length, messageChunks_length, hsame]
  have hsize := encodeMessage_size hstream
  have hsize' := encodeMessage_size hstream'
  rw [Run.fullRuns, Run.fullRuns, hbody, hbody']
  dsimp only
  omega

end sent

end JLinkMcp.Bridge
