import RemoteLink.Server.Blocklist

set_option autoImplicit false

/-!
# One key for each client address

The address of a client is the key of its rate limits, lockouts and blocklist entries. The address
of the socket is written in its canonical form; an address in a trusted header is taken over as the
proxy spells it, so one address may have several keys.

## Main definitions

* `ClientRequest` — what the address of a client is resolved from.
* `ClientRequest.addr` — the address, whatever its textual form.
* `SameSpelling` — two requests spell an address in the same way.

## Main results

* `client_ip_canonical` — two requests from one address have one key exactly when they spell it in
  the same way.
* `client_ip_split` — an address with two keys.
-/

namespace RemoteLink.Server

open RemoteLink.Library

/-! ## Requests -/

/-- What the address of a client is resolved from. -/
structure ClientRequest where
  headers : ProxyHeaders
  peer : Option IpAddr
  trustProxy : Bool

namespace ClientRequest

/-- The key of the client. -/
def key (r : ClientRequest) : String := resolveClientIp r.headers r.peer r.trustProxy

/-- The address that a trusted proxy reports, as it spells it. -/
def hop (r : ClientRequest) : Option String :=
  if r.trustProxy then proxyClientIp r.headers else none

/-- The address of the client: the one that a trusted proxy reports, or else the peer. -/
def addr (r : ClientRequest) : Option IpAddr :=
  match r.hop with
  | some ip => IpAddr.parse ip
  | none => r.peer

end ClientRequest

/-- A text spells the address that it stands for in the canonical form. -/
def Canonical (text : String) : Prop :=
  ∀ ip, IpAddr.parse text = some ip → text = ip.canonical.display

/-- **Two requests spell an address in the same way**: both take it from the socket, or from headers
with the same text, or one takes it from a header with the canonical text. -/
def SameSpelling (r r' : ClientRequest) : Prop :=
  match r.hop, r'.hop with
  | some text, some text' => text = text'
  | some text, none | none, some text => Canonical text
  | none, none => True

/-! ## Keys -/

/-- What a proxy reports is an address. -/
theorem parse_proxyClientIp {headers : ProxyHeaders} {text : String}
    (h : proxyClientIp headers = some text) : ∃ ip, IpAddr.parse text = some ip := by
  have htoken : ∀ {s}, (if !s.isEmpty ∧ isPlausibleIpToken s then some s else none) = some text →
      ∃ ip, IpAddr.parse text = some ip := by
    intro s hs
    split_ifs at hs with hboth
    obtain rfl := Option.some.inj hs
    exact Option.isSome_iff_exists.mp hboth.2
  unfold proxyClientIp at h
  dsimp only at h
  split at h
  · rename_i hforwarded
    obtain rfl := Option.some.inj h
    obtain ⟨v, -, hv⟩ := Option.bind_eq_some_iff.mp hforwarded
    exact htoken hv
  · obtain ⟨v, -, hv⟩ := Option.bind_eq_some_iff.mp h
    exact htoken hv

namespace ClientRequest

variable {r : ClientRequest} {text : String} {ip : IpAddr}

theorem parse_hop (h : r.hop = some text) : ∃ ip, IpAddr.parse text = some ip := by
  unfold hop at h
  split_ifs at h
  exact parse_proxyClientIp h

theorem key_of_hop (h : r.hop = some text) : r.key = text := by
  unfold key resolveClientIp
  rw [show (if r.trustProxy then proxyClientIp r.headers else none) = some text from h]

theorem key_of_peer (h : r.hop = none) (hpeer : r.peer = some ip) :
    r.key = ip.canonical.display := by
  unfold key resolveClientIp
  rw [show (if r.trustProxy then proxyClientIp r.headers else none) = none from h, hpeer,
    ← ipKey_eq]

theorem key_unknown (h : r.hop = none) (hpeer : r.peer = none) : r.key = "unknown" := by
  unfold key resolveClientIp
  rw [show (if r.trustProxy then proxyClientIp r.headers else none) = none from h, hpeer]

end ClientRequest

/-- A header and a socket give an address one key exactly when the header has the canonical text. -/
theorem key_eq_iff_canonical {r r' : ClientRequest} {text : String} (hhop : r.hop = some text)
    (hnone : r'.hop = none)
    (hsame : r.addr.map IpAddr.canonical = r'.addr.map IpAddr.canonical) :
    r.key = r'.key ↔ Canonical text := by
  obtain ⟨ip, hip⟩ := ClientRequest.parse_hop hhop
  have haddr : r.addr = some ip := by
    unfold ClientRequest.addr
    rw [hhop]
    exact hip
  have haddr' : r'.addr = r'.peer := by
    unfold ClientRequest.addr
    rw [hnone]
  rw [haddr, haddr'] at hsame
  obtain ⟨ip', hpeer, hcanonical⟩ := Option.map_eq_some_iff.mp hsame.symm
  rw [ClientRequest.key_of_hop hhop, ClientRequest.key_of_peer hnone hpeer, hcanonical]
  constructor
  · intro htext ip'' hip''
    obtain rfl := Option.some.inj (hip.symm.trans hip'')
    exact htext
  · exact fun h => h ip hip

/-- **One key for each address**: two requests from one client address, up to IPv4-mapped IPv6, have
the same key if and only if they spell it in the same way; without a trusted proxy the headers do
not matter. -/
theorem client_ip_canonical {r r' : ClientRequest}
    (hsame : r.addr.map IpAddr.canonical = r'.addr.map IpAddr.canonical) :
    (r.key = r'.key ↔ SameSpelling r r') ∧
    ∀ headers headers' peer,
      resolveClientIp headers peer false = resolveClientIp headers' peer false := by
  refine ⟨?_, fun _ _ _ => rfl⟩
  unfold SameSpelling
  rcases hhop : r.hop with _ | text
  · rcases hhop' : r'.hop with _ | text'
    · refine iff_of_true ?_ trivial
      have haddr : r.addr = r.peer := by
        unfold ClientRequest.addr
        rw [hhop]
      have haddr' : r'.addr = r'.peer := by
        unfold ClientRequest.addr
        rw [hhop']
      rw [haddr, haddr'] at hsame
      rcases hpeer : r.peer with _ | ip
      · rw [hpeer] at hsame
        have hpeer' : r'.peer = none := Option.map_eq_none_iff.mp hsame.symm
        rw [ClientRequest.key_unknown hhop hpeer, ClientRequest.key_unknown hhop' hpeer']
      · rw [hpeer] at hsame
        obtain ⟨ip', hpeer', hcanonical⟩ := Option.map_eq_some_iff.mp hsame.symm
        rw [ClientRequest.key_of_peer hhop hpeer, ClientRequest.key_of_peer hhop' hpeer',
          hcanonical]
    · rw [eq_comm]
      exact key_eq_iff_canonical hhop' hhop hsame.symm
  · rcases hhop' : r'.hop with _ | text'
    · exact key_eq_iff_canonical hhop hhop' hsame
    · rw [ClientRequest.key_of_hop hhop, ClientRequest.key_of_hop hhop']

/-- A request through a trusted proxy that reports an address in its first hop. -/
def demoForwarded (hop : String) : ClientRequest := ⟨⟨some hop, none⟩, none, true⟩

/-- A request from the socket of the same address. -/
def demoDirect : ClientRequest := ⟨⟨none, none⟩, some (.v4 ⟨203, 0, 113, 1⟩), true⟩

/-- The header with the canonical text has the key of the socket. -/
theorem client_ip_canonical_forwarded :
    (demoForwarded "203.0.113.1").addr.map IpAddr.canonical =
      demoDirect.addr.map IpAddr.canonical ∧
    (demoForwarded "203.0.113.1").key = demoDirect.key := by
  have hsame : (demoForwarded "203.0.113.1").addr.map IpAddr.canonical =
      demoDirect.addr.map IpAddr.canonical := by
    decide +kernel
  refine ⟨hsame, (client_ip_canonical hsame).1.mpr ?_⟩
  have hcanonical : ((IpAddr.parse "203.0.113.1").all fun ip =>
      decide ("203.0.113.1" = ip.canonical.display)) = true := by
    decide +kernel
  show Canonical "203.0.113.1"
  intro ip hip
  rw [hip] at hcanonical
  exact of_decide_eq_true hcanonical

/-- **An address with two keys**: the same IPv4 address, once in its IPv4-mapped form. -/
theorem client_ip_split :
    ¬∀ r r' : ClientRequest, r.addr.map IpAddr.canonical = r'.addr.map IpAddr.canonical →
      r.key = r'.key := by
  intro hclaim
  have hkeys := hclaim (demoForwarded "203.0.113.1") (demoForwarded "::ffff:203.0.113.1")
    (by decide +kernel)
  revert hkeys
  decide +kernel

end RemoteLink.Server
