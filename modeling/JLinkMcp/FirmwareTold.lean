import JLinkMcp.FirmwareMetadata

namespace JLinkMcp.Firmware

open Codec Host StateProgram

/-- What a response tells the host: its metadata is the text of an object, which is cut at the end of
`metadata_buffer`, and only where it is a listing. -/
structure Tells (depth : Nat) (listing : Prop) (response : Response) (whole : Bytes)
    (fields : List (PyStr × PyJson)) : Prop where
  status : response.status < 2 ^ 16
  data : response.data.length ≤ kMaxApplicationTransfer
  cut : response.metadata = whole.take (kMaxMetadata - 1)
  json : JsonBytes (depth + 3) whole (.dict fields)
  short : ¬listing → whole.length < kMaxMetadata
  room : response.data.length + response.metadata.length ≤ 65000
  queueDepth : response.queueDepth < 2 ^ 16
  overflow : response.overflow < 2 ^ 32
  ascii : ∀ b ∈ response.error, b.toNat < 128

def Told (depth : Nat) (listing : Prop) (response : Response) : Prop :=
  ∃ whole fields, Tells depth listing response whole fields

section rules

variable {depth requestId : Nat} {listing : Prop} {s : Bridge}

variable {parts : List Bytes} {members : List (MetadataMember (depth + 2))}

end rules

section bounds

variable {reader : TlvReader}

end bounds

section buses

variable {depth requestId : Nat} {listing : Prop} {reader : TlvReader} {s : Bridge}

end buses

section gpio

variable {depth requestId : Nat} {listing : Prop} {reader : TlvReader} {s : Bridge}

end gpio

section wifi

variable {depth requestId : Nat} {listing : Prop} {reader : TlvReader} {s : Bridge}

end wifi

end JLinkMcp.Firmware
