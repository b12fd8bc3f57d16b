import ConnectionConfig.Proofs.ClientProfile.Readers
import ConnectionConfig.Proofs.ClientProfile.Validated
import ConnectionConfig.Proofs.Trust.Faults

/-!
# Servers, and why there is no profile

A client talks to the near end of a tunnel if one can be up, and to the servers that the host text
names if not; with a tunnel the host text is not looked at. A host text that names no address is the
first reason for there being no profile. The other one is that nobody can be trusted where the
connection has to be encrypted.
-/

namespace ConnectionConfig.ClientProfile

open ServerAddress (IsFirstInvalid namedEntries)

variable {Listener : Type} {machine : Machine} {properties : PropertyMap}
  {localPort : Option UInt16} {listener : Option Listener}

/-- A tunnel can be up with its near end at a port: the port is given and not zero, the tunnel host,
the user there and a private key file are named, and the file exists. -/
structure HasTunnel (machine : Machine) (properties : PropertyMap) (localPort : Option UInt16)
    (port : UInt16) : Prop where
  given : localPort = some port
  pos : 0 < port
  user : (properties.getNonBlank? Property.sshUser.name).isSome = true
  host : (properties.getNonBlank? Property.sshHost.name).isSome = true
  key : ∃ reference, properties.getNonBlank? Property.sshPrivateKeyFile.name = some reference ∧
    machine.files.contains (machine.locate reference) = true

private theorem keyFileExists_iff :
    keyFileExists machine properties = true ↔
      ∃ reference, properties.getNonBlank? Property.sshPrivateKeyFile.name = some reference ∧
        machine.files.contains (machine.locate reference) = true := by
  rw [keyFileExists]
  cases properties.getNonBlank? Property.sshPrivateKeyFile.name with
  | none => simp
  | some reference => simp

private theorem describesTunnel_iff :
    properties.describesTunnel = true ↔
      (properties.getNonBlank? Property.sshUser.name).isSome = true ∧
        (properties.getNonBlank? Property.sshHost.name).isSome = true ∧
        (properties.getNonBlank? Property.sshPrivateKeyFile.name).isSome = true := by
  simp [PropertyMap.describesTunnel]

private theorem hasTunnel_iff {port : UInt16} :
    HasTunnel machine properties (some port) port ↔
      port ≠ 0 ∧ properties.describesTunnel = true ∧ keyFileExists machine properties = true := by
  rw [keyFileExists_iff, describesTunnel_iff]
  constructor
  · intro h
    obtain ⟨reference, hreference, -⟩ := h.key
    exact ⟨UInt16.pos_iff_ne_zero.mp h.pos, ⟨h.user, h.host, by rw [hreference]; rfl⟩, h.key⟩
  · rintro ⟨hp, ⟨huser, hhost, -⟩, hkey⟩
    exact ⟨rfl, UInt16.pos_iff_ne_zero.mpr hp, huser, hhost, hkey⟩

/-- The near end of a tunnel is the local port, if a tunnel can be up there. -/
theorem tunnelEnd?_eq_some_iff {address : ServerAddress} :
    tunnelEnd? machine properties localPort = some address ↔
      ∃ port, HasTunnel machine properties localPort port ∧ address = ⟨"localhost", port⟩ := by
  cases localPort with
  | none =>
    constructor
    · intro h
      cases h
    · rintro ⟨port, h, -⟩
      cases h.given
  | some given =>
    rw [tunnelEnd?]
    constructor
    · intro h
      split at h
      · next hall =>
        cases h
        exact ⟨given, hasTunnel_iff.mpr hall, rfl⟩
      · cases h
    · rintro ⟨port, h, rfl⟩
      cases h.given
      exact if_pos (hasTunnel_iff.mp h)

/-- There is no near end just when a tunnel can be up at no port. -/
theorem tunnelEnd?_eq_none_iff :
    tunnelEnd? machine properties localPort = none ↔
      ∀ port, ¬ HasTunnel machine properties localPort port := by
  rw [Option.eq_none_iff_forall_ne_some]
  simp only [ne_eq, tunnelEnd?_eq_some_iff]
  constructor
  · exact fun h port hport ↦ h _ ⟨port, hport, rfl⟩
  · rintro h _ ⟨port, hport, -⟩
    exact h port hport

/-- With a tunnel its near end is the only server. -/
theorem hostsOf_of_hasTunnel {port : UInt16} (h : HasTunnel machine properties localPort port) :
    hostsOf machine properties localPort = .ok [⟨"localhost", port⟩] := by
  rw [hostsOf, tunnelEnd?_eq_some_iff.mpr ⟨port, h, rfl⟩]

/-- Without a tunnel the servers are those that the host text names. -/
theorem hostsOf_of_no_tunnel (h : ∀ port, ¬ HasTunnel machine properties localPort port) :
    hostsOf machine properties localPort =
      ServerAddress.parseList (properties.host?.getD "") := by
  rw [hostsOf, tunnelEnd?_eq_none_iff.mpr h]

/-- There are no servers because there is no tunnel and the host text has an entry that is neither
blank nor an address. -/
def HasServerFault (machine : Machine) (properties : PropertyMap) (localPort : Option UInt16)
    (e : ConnectionError) : Prop :=
  (∀ port, ¬ HasTunnel machine properties localPort port) ∧
    ∃ entry, IsFirstInvalid (namedEntries (properties.host?.getD "")) entry ∧
      e = .invalidAddress entry

/-- Servers are missing just when something is wrong with them. -/
theorem hostsOf_eq_error_iff {e : ConnectionError} :
    hostsOf machine properties localPort = .error e ↔
      HasServerFault machine properties localPort e := by
  by_cases htunnel : ∃ port, HasTunnel machine properties localPort port
  · obtain ⟨port, hport⟩ := htunnel
    rw [hostsOf_of_hasTunnel hport]
    constructor
    · intro h
      cases h
    · rintro ⟨hno, -⟩
      exact absurd hport (hno port)
  · rw [not_exists] at htunnel
    rw [hostsOf_of_no_tunnel htunnel, ServerAddress.parseList_eq_error_iff]
    exact ⟨fun h ↦ ⟨htunnel, h⟩, fun h ↦ h.2⟩

/-- The connection has to be encrypted, and its trust list cannot be put together or holds a
certificate that is not accepted. -/
def HasTrustFault (machine : Machine) (properties : PropertyMap) (e : ConnectionError) : Prop :=
  properties.tls = true ∧ (TrustList.gather machine properties = .error e ∨
    ∃ t, TrustList.gather machine properties = .ok t ∧
      t.anchors Certificate.isAnchorShaped = .error e)

/-- Encryption fails just when something is wrong with the trust list. -/
theorem encryptionOf_eq_error_iff {e : ConnectionError} :
    encryptionOf machine properties = .error e ↔ HasTrustFault machine properties e := by
  rw [encryptionOf, map_eq_error_iff, trustedBy, HasTrustFault]
  cases properties.tls with
  | false => simp
  | true => simp [bind_eq_error_iff, map_eq_error_iff]

/-- A connection is encrypted just when it has to be, and then trusts the anchors of its trust
list. -/
theorem of_encryptionOf {encryption : Encryption}
    (h : encryptionOf machine properties = .ok encryption) :
    encryption.enabled = properties.tls ∧ encryption.trusted.isSome = properties.tls := by
  obtain ⟨trusted, htrusted, rfl⟩ := map_eq_ok_iff.mp h
  refine ⟨rfl, ?_⟩
  rw [trustedBy] at htrusted
  cases htls : properties.tls with
  | false =>
    rw [htls, if_neg Bool.false_ne_true] at htrusted
    cases htrusted
    rfl
  | true =>
    rw [htls, if_pos rfl] at htrusted
    obtain ⟨t, -, ht⟩ := bind_eq_ok_iff.mp htrusted
    obtain ⟨anchors, -, rfl⟩ := map_eq_ok_iff.mp ht
    rfl

private theorem build_eq_error_iff_parts {e : ConnectionError} :
    build machine properties localPort listener = .error e ↔
      hostsOf machine properties localPort = .error e ∨
        (∃ hosts, hostsOf machine properties localPort = .ok hosts) ∧
          encryptionOf machine properties = .error e := by
  rw [build, bind_eq_error_iff]
  constructor
  · rintro (h | ⟨hosts, hhosts, h⟩)
    · exact .inl h
    · rcases bind_eq_error_iff.mp h with h | ⟨_, -, h⟩
      · exact .inr ⟨⟨hosts, hhosts⟩, h⟩
      · cases h
  · rintro (h | ⟨⟨hosts, hhosts⟩, h⟩)
    · exact .inl h
    · exact .inr ⟨hosts, hhosts, bind_eq_error_iff.mpr (.inl h)⟩

private theorem exists_hostsOf_iff :
    (∃ hosts, hostsOf machine properties localPort = .ok hosts) ↔
      ∀ e, ¬ HasServerFault machine properties localPort e := by
  simp only [← hostsOf_eq_error_iff]
  cases hostsOf machine properties localPort with
  | ok hosts => simp
  | error e => simp

/-- There is no profile just when something is wrong with the servers, or else with the trust
list. -/
theorem build_eq_error_iff {e : ConnectionError} :
    build machine properties localPort listener = .error e ↔
      HasServerFault machine properties localPort e ∨
        (∀ other, ¬ HasServerFault machine properties localPort other) ∧
          HasTrustFault machine properties e := by
  rw [build_eq_error_iff_parts, hostsOf_eq_error_iff, exists_hostsOf_iff, encryptionOf_eq_error_iff]

/-- With a tunnel the host text makes no difference. -/
theorem build_eq_of_hasTunnel {port : UInt16} {other : PropertyMap}
    (h : HasTunnel machine properties localPort port)
    (hother : ∀ key, key ≠ Property.host.name → other.get? key = properties.get? key) :
    build machine other localPort listener = build machine properties localPort listener := by
  have hbeside : other.openView.besideHost = properties.openView.besideHost :=
    PropertyMap.besideHost_congr_of_raw? fun p hp ↦ hother p.name (mt Property.name_inj.mp hp)
  refine build_congr_of_hostsOf hbeside (hother _ (by decide)) ?_ listener
  rw [hostsOf, hostsOf, tunnelEnd?_congr hbeside, tunnelEnd?_eq_some_iff.mpr ⟨port, h, rfl⟩]

end ConnectionConfig.ClientProfile
