import Fuerte.Http.UrlEncoding
import Fuerte.ResponseBody

/-! # The connection builder

The URL of an endpoint is taken apart at its colons. What is between them is
looked at only as far as the protocol goes.
-/

namespace Fuerte.ConnectionBuilder

set_option autoImplicit false

open Http

structure ConnectionConfiguration where
  connType : TransportType := .vst
  ssl : Bool := true
  host : ByteString := ascii "localhost"
  port : ByteString := []
  authenticationType : AuthenticationType := .none
  user : ByteString := []
  password : ByteString := []
  maxChunkSize : Nat := 5000
  vstVersion : VSTVersion := .vst1_0
  /-- Whether a `ConnectionFailureCallback` has been set. -/
  onFailure : Bool := false
  deriving DecidableEq, Repr

/-- What a protocol sets: the transport, and whether it is encrypted. -/
def protocol (proto : ByteString) : Option (TransportType × Bool) :=
  if proto = ascii "vst" then some (.vst, false)
  else if proto = ascii "vsts" then some (.vst, true)
  else if proto = ascii "http" then some (.http, false)
  else if proto = ascii "https" then some (.http, true)
  else none

/-- `ConnectionBuilder::host`: how it ends, and the configuration afterwards. -/
def host (str : ByteString) (conf : ConnectionConfiguration) :
    Except Fault Unit × ConnectionConfiguration :=
  let strings := str.splitOn (byte ':')
  let proto := strings.headD []
  match protocol proto with
  | none =>
    (.error (.runtimeError
      ("invalid protocol: " ++ String.ofList (proto.map fun b => Char.ofNat b.toNat))), conf)
  | some (connType, ssl) =>
    let conf := { conf with connType, ssl }
    match strings[1]? with
    | none => (.error .outOfBounds, conf)
    | some name =>
      -- what is erased is meant to be two slashes
      let conf := { conf with host := name.drop 2 }
      match strings[2]? with
      | none => (.error .outOfBounds, conf)
      | some port => (.ok (), { conf with port })

/-! ## Endpoints -/

/-- A URL of the form `proto://host:port`. -/
structure Endpoint where
  proto : ByteString
  settings : TransportType × Bool
  host : ByteString
  port : ByteString
  known : protocol proto = some settings
  host_ne_nil : host ≠ []
  port_ne_nil : port ≠ []
  host_colon : byte ':' ∉ host
  port_colon : byte ':' ∉ port

namespace Endpoint

def url (endpoint : Endpoint) : ByteString :=
  endpoint.proto ++ byte ':' :: (ascii "//" ++ endpoint.host ++ byte ':' :: endpoint.port)

/-- The four settings that an endpoint makes. -/
def configure (endpoint : Endpoint) (conf : ConnectionConfiguration) : ConnectionConfiguration :=
  { conf with
    connType := endpoint.settings.1
    ssl := endpoint.settings.2
    host := endpoint.host
    port := endpoint.port }

end Endpoint

/-- An endpoint is recognised, and everything else refused without a change. -/
structure Parses (str : ByteString) (conf : ConnectionConfiguration) : Prop where
  accepted : ∀ endpoint : Endpoint, endpoint.url = str →
    host str conf = (.ok (), endpoint.configure conf)
  rejected : (∀ endpoint : Endpoint, endpoint.url ≠ str) →
    ∃ fault, host str conf = (.error fault, conf) ∧ fault ≠ .outOfBounds

/-- Strings that are accepted and configure the same are the same. -/
def Distinguishes (str str' : ByteString) (conf : ConnectionConfiguration) : Prop :=
  (host str conf).1 = .ok () → (host str' conf).1 = .ok () →
    (host str conf).2 = (host str' conf).2 → str = str'

/-- No protocol stands in front of the first colon, or a whole endpoint is there. -/
def WholeIfKnown (str : ByteString) : Prop :=
  protocol ((str.splitOn (byte ':')).headD []) = none ∨ ∃ endpoint : Endpoint, endpoint.url = str

theorem protocol_cases {proto : ByteString} {settings : TransportType × Bool}
    (h : protocol proto = some settings) :
    proto = ascii "vst" ∧ settings = (.vst, false) ∨ proto = ascii "vsts" ∧ settings = (.vst, true) ∨
      proto = ascii "http" ∧ settings = (.http, false) ∨
      proto = ascii "https" ∧ settings = (.http, true) := by
  rw [protocol] at h
  split at h
  · rename_i hProto
    exact .inl ⟨hProto, (Option.some.inj h).symm⟩
  · split at h
    · rename_i hProto
      exact .inr (.inl ⟨hProto, (Option.some.inj h).symm⟩)
    · split at h
      · rename_i hProto
        exact .inr (.inr (.inl ⟨hProto, (Option.some.inj h).symm⟩))
      · split at h
        · rename_i hProto
          exact .inr (.inr (.inr ⟨hProto, (Option.some.inj h).symm⟩))
        · cases h

theorem protocol_colon {proto : ByteString} {settings : TransportType × Bool}
    (h : protocol proto = some settings) : byte ':' ∉ proto := by
  rcases protocol_cases h with ⟨rfl, -⟩ | ⟨rfl, -⟩ | ⟨rfl, -⟩ | ⟨rfl, -⟩ <;> decide

theorem protocol_inj {proto proto' : ByteString} {settings : TransportType × Bool}
    (h : protocol proto = some settings) (h' : protocol proto' = some settings) : proto = proto' := by
  rcases protocol_cases h with ⟨rfl, rfl⟩ | ⟨rfl, rfl⟩ | ⟨rfl, rfl⟩ | ⟨rfl, rfl⟩ <;>
    rcases protocol_cases h' with ⟨rfl, hSame⟩ | ⟨rfl, hSame⟩ | ⟨rfl, hSame⟩ | ⟨rfl, hSame⟩ <;>
    first | rfl | cases hSame

section Parsing

variable {str str' : ByteString} {conf : ConnectionConfiguration}

theorem Endpoint.splitOn_url (endpoint : Endpoint) : endpoint.url.splitOn (byte ':') =
    [endpoint.proto, ascii "//" ++ endpoint.host, endpoint.port] := by
  have hName : byte ':' ∉ ascii "//" ++ endpoint.host := by
    rw [List.mem_append, not_or]
    exact ⟨by decide, endpoint.host_colon⟩
  rw [url, List.splitOn_append_cons_self_of_not_mem (protocol_colon endpoint.known),
    List.splitOn_append_cons_self_of_not_mem hName, List.splitOn_eq_singleton endpoint.port_colon]

theorem host_url (endpoint : Endpoint) :
    host endpoint.url conf = (.ok (), endpoint.configure conf) := by
  simp only [host, endpoint.splitOn_url, List.headD_cons, endpoint.known]
  rfl

theorem Endpoint.url_inj {endpoint endpoint' : Endpoint}
    (h : endpoint.configure conf = endpoint'.configure conf) : endpoint.url = endpoint'.url := by
  have hSettings : endpoint.settings = endpoint'.settings :=
    Prod.ext (congrArg ConnectionConfiguration.connType h) (congrArg ConnectionConfiguration.ssl h)
  have hHost : endpoint.host = endpoint'.host := congrArg ConnectionConfiguration.host h
  have hPort : endpoint.port = endpoint'.port := congrArg ConnectionConfiguration.port h
  have hProto := protocol_inj endpoint.known (hSettings ▸ endpoint'.known)
  rw [url, url, hProto, hHost, hPort]

variable (conf) in
/-- What begins with a protocol is not refused: it is accepted, or read beyond its end. -/
theorem host_of_known {settings : TransportType × Bool}
    (h : protocol ((str.splitOn (byte ':')).headD []) = some settings) :
    (host str conf).1 = .ok () ∨ (host str conf).1 = .error .outOfBounds := by
  simp only [host, h]
  split
  · exact .inr rfl
  · split
    · exact .inr rfl
    · exact .inl rfl

variable (conf) in
theorem host_of_unknown (h : protocol ((str.splitOn (byte ':')).headD []) = none) :
    ∃ what, host str conf = (.error (.runtimeError what), conf) := by
  simp only [host, h]
  exact ⟨_, rfl⟩

theorem parses_iff : Parses str conf ↔ WholeIfKnown str := by
  constructor
  · intro h
    cases hProto : protocol ((str.splitOn (byte ':')).headD []) with
    | none => exact .inl hProto
    | some settings =>
      by_contra hWhole
      rw [WholeIfKnown, not_or, not_exists] at hWhole
      obtain ⟨fault, hHost, hFault⟩ := h.rejected hWhole.2
      rcases host_of_known conf hProto with hEnd | hEnd
      · rw [hHost] at hEnd
        cases hEnd
      · rw [hHost] at hEnd
        exact hFault (Except.error.inj hEnd)
  · rintro (hProto | ⟨endpoint, rfl⟩)
    · constructor
      · rintro endpoint rfl
        rw [endpoint.splitOn_url, List.headD_cons, endpoint.known] at hProto
        cases hProto
      · intro _
        obtain ⟨what, hHost⟩ := host_of_unknown conf hProto
        exact ⟨_, hHost, Fault.noConfusion⟩
    · constructor
      · intro other hOther
        rw [← hOther]
        exact host_url other
      · intro hNone
        exact absurd rfl (hNone endpoint)

theorem distinguishes (h : WholeIfKnown str) (h' : WholeIfKnown str') :
    Distinguishes str str' conf := by
  intro hAccepted hAccepted' hSame
  rcases h with hProto | ⟨endpoint, rfl⟩
  · obtain ⟨what, hHost⟩ := host_of_unknown conf hProto
    rw [hHost] at hAccepted
    cases hAccepted
  · rcases h' with hProto | ⟨endpoint', rfl⟩
    · obtain ⟨what, hHost⟩ := host_of_unknown conf hProto
      rw [hHost] at hAccepted'
      cases hAccepted'
    · rw [host_url, host_url] at hSame
      exact Endpoint.url_inj hSame

end Parsing

/-- Two strings are treated right exactly if neither is a broken endpoint with a
known protocol. -/
theorem host_parses (str str' : ByteString) (conf : ConnectionConfiguration) :
    Parses str conf ∧ Parses str' conf ∧ Distinguishes str str' conf ↔
      WholeIfKnown str ∧ WholeIfKnown str' := by
  constructor
  · rintro ⟨h, h', -⟩
    exact ⟨parses_iff.mp h, parses_iff.mp h'⟩
  · rintro ⟨h, h'⟩
    exact ⟨parses_iff.mpr h, parses_iff.mpr h', distinguishes h h'⟩

/-- Without a port, transport, encryption and host are set before what is not
there is read. -/
theorem host_without_port :
    host (ascii "http://db") {} =
        (.error .outOfBounds, { connType := .http, ssl := false, host := ascii "db" }) ∧
      ¬ Parses (ascii "http://db") {} := by
  have hHost : host (ascii "http://db") {} =
      (.error .outOfBounds, { connType := .http, ssl := false, host := ascii "db" }) := by
    have hSplit : (ascii "http://db").splitOn (byte ':') = [ascii "http", ascii "//db"] := by
      rw [show ascii "http://db" = ascii "http" ++ byte ':' :: ascii "//db" by rfl,
        List.splitOn_append_cons_self_of_not_mem (by decide), List.splitOn_eq_singleton (by decide)]
    simp only [host, hSplit]
    rfl
  refine ⟨hHost, fun h => ?_⟩
  by_cases hWhole : ∃ endpoint : Endpoint, endpoint.url = ascii "http://db"
  · obtain ⟨endpoint, hUrl⟩ := hWhole
    have hAccepted := h.accepted endpoint hUrl
    rw [hHost] at hAccepted
    cases hAccepted
  · obtain ⟨fault, hRefused, hFault⟩ := h.rejected (not_exists.mp hWhole)
    rw [hHost] at hRefused
    cases hRefused

end Fuerte.ConnectionBuilder
