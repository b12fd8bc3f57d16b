import ConnectionConfig.ClientProfile
import ConnectionConfig.ConnectionString.Entry
import ConnectionConfig.Files.FileTree
import ConnectionConfig.Proofs.PropertyMap.Purposes
import ConnectionConfig.Proofs.ServerAddress

/-!
# Profiles of checked connections

The profile of a connection that is fit to be opened knows who the client is, with the user and the
password of the connection. It names a server unless there is no tunnel and the host text, which is
not blank, holds nothing but commas and white space: the check looks at the text, and the profile at
the entries between the commas.
-/

namespace ConnectionConfig.ClientProfile

section Build

variable {Listener : Type} {machine : Machine} {properties : PropertyMap}
  {localPort : Option UInt16} {listener : Option Listener} {profile : ClientProfile Listener}

/-- A profile is built from the servers and the encryption, and has the credential of the
connection. -/
theorem of_build (h : build machine properties localPort listener = .ok profile) :
    hostsOf machine properties localPort = .ok profile.hosts ∧
      encryptionOf machine properties = .ok profile.encryption ∧
      profile.credential = credentialOf properties := by
  obtain ⟨hosts, hhosts, hrest⟩ := bind_eq_ok_iff.mp h
  obtain ⟨encryption, hencryption, he⟩ := bind_eq_ok_iff.mp hrest
  cases he
  exact ⟨hhosts, hencryption, rfl⟩

/-- With servers and encryption there is a profile. -/
theorem exists_build (listener : Option Listener) {hosts : List ServerAddress}
    {encryption : Encryption} (hhosts : hostsOf machine properties localPort = .ok hosts)
    (hencryption : encryptionOf machine properties = .ok encryption) :
    ∃ profile, build machine properties localPort listener = .ok profile := by
  refine ⟨_, bind_eq_ok_iff.mpr ⟨hosts, hhosts, bind_eq_ok_iff.mpr ⟨encryption, hencryption, rfl⟩⟩⟩

/-- There are no servers just when there is no tunnel and the host text holds nothing but white
space and commas. -/
theorem hostsOf_eq_nil_iff :
    hostsOf machine properties localPort = .ok [] ↔
      tunnelEnd? machine properties localPort = none ∧
        ∀ c ∈ (properties.host?.getD "").toList, Text.isSpace c = true ∨ c = ',' := by
  rw [hostsOf]
  cases tunnelEnd? machine properties localPort with
  | some address => simp
  | none => simp [ServerAddress.parseList_eq_nil_iff]

/-- The profile of a connection that is fit to be opened has exactly its user and its password,
neither of them blank. It has no server just when there is no tunnel and the host text, though not
blank, holds nothing but commas and white space. -/
theorem credential_and_hosts_of_build
    (hfit : properties.require .connection = .ok properties)
    (h : build machine properties localPort listener = .ok profile) :
    (∃ user password, properties.user? = some user ∧ Text.isBlank user = false ∧
      properties.password? = some password ∧ Text.isBlank password = false ∧
      profile.credential = some ⟨user, properties.authenticationDatabase, password⟩) ∧
    (profile.hosts = [] ↔ tunnelEnd? machine properties localPort = none ∧
      ∃ host, properties.host? = some host ∧ Text.isBlank host = false ∧
        ∀ c ∈ host.toList, Text.isSpace c = true ∨ c = ',') := by
  have hvalue : ∀ p ∈ Purpose.connection.required,
      ∃ value, properties.raw? p = some value ∧ Text.isBlank value = false := by
    intro p hp
    obtain ⟨value, hv⟩ :=
      Option.isSome_iff_exists.mp ((PropertyMap.require_eq_ok_iff.mp hfit).2 p hp)
    exact ⟨value, PropertyMap.getNonBlank?_eq_some_iff.mp hv⟩
  obtain ⟨user, huser, hub⟩ := hvalue .user (by decide)
  obtain ⟨password, hpassword, hpb⟩ := hvalue .password (by decide)
  obtain ⟨host, hhost, hhb⟩ := hvalue .host (by decide)
  obtain ⟨hhosts, -, hcredential⟩ := of_build h
  refine ⟨⟨user, password, huser, hub, hpassword, hpb, ?_⟩, ?_⟩
  · rw [hcredential, credentialOf, PropertyMap.user?, huser, PropertyMap.password?, hpassword]
  · have hnil : profile.hosts = [] ↔ hostsOf machine properties localPort = .ok [] := by
      rw [hhosts, Except.ok.injEq]
    rw [hnil, hostsOf_eq_nil_iff, PropertyMap.host?, hhost]
    simp [hhb]

end Build

/-- Two hosts among blank entries, with the port of a tunnel that is not up. -/
theorem hosts_ne_nil_of_blank_entries :
    let properties := PropertyMap.ofList
      [("user", " ann"), ("password", "s3cret "), ("database", "db"), ("host", " ,h1,, [::1]:5 ,")]
    let machine : Machine := ⟨FileTree.empty.toFileSystem ⟨"/"⟩, .standard none none, none⟩
    properties.require .connection = .ok properties ∧
      ∃ profile : ClientProfile Unit, build machine properties (some 9) none = .ok profile ∧
        profile.hosts ≠ [] ∧ profile.credential = some ⟨" ann", "admin", "s3cret "⟩ := by
  intro properties machine
  have hfit : properties.require .connection = .ok properties := by decide +kernel
  have hhosts : hostsOf machine properties (some 9) = .ok [⟨"h1", 27017⟩, ⟨"::1", 5⟩] := by
    decide +kernel
  have hencryption : encryptionOf machine properties = .ok ⟨false, false, none⟩ := by
    decide +kernel
  obtain ⟨profile, hbuild⟩ := exists_build (none : Option Unit) hhosts hencryption
  obtain ⟨⟨user, password, huser, -, hpassword, -, hcredential⟩, hnil⟩ :=
    credential_and_hosts_of_build hfit hbuild
  have hann : properties.user? = some " ann" := by decide +kernel
  have hsecret : properties.password? = some "s3cret " := by decide +kernel
  have hadmin : properties.authenticationDatabase = "admin" := by decide +kernel
  rw [hann, Option.some.injEq] at huser
  rw [hsecret, Option.some.injEq] at hpassword
  refine ⟨hfit, profile, hbuild, fun hempty ↦ ?_, ?_⟩
  · obtain ⟨-, host, hhost, -, hall⟩ := hnil.mp hempty
    have htext : properties.host? = some " ,h1,, [::1]:5 ," := by decide +kernel
    rw [htext, Option.some.injEq] at hhost
    have hletter := hall 'h' (by rw [← hhost]; decide)
    exact absurd hletter (by decide)
  · rw [hcredential, ← huser, ← hpassword, hadmin]

/-- A map whose host is a comma is fit for a connection, also as a connection string gives it, and
has a profile without any server. -/
theorem exists_build_without_hosts :
    let properties := PropertyMap.ofList
      [("database", "db"), ("user", "ann"), ("password", "s3cret"), ("host", ",")]
    let machine : Machine := ⟨FileTree.empty.toFileSystem ⟨"/"⟩, .standard none none, none⟩
    ConnectionString.readFor .connection ConnectionString.scheme none PropertyMap.empty
        "jdbc:documentdb:///db?user=ann&password=s3cret&host=%2C" = .ok properties ∧
      properties.require .connection = .ok properties ∧
      ∃ profile : ClientProfile Unit,
        build machine properties none none = .ok profile ∧ profile.hosts = [] := by
  intro properties machine
  have hhosts : hostsOf machine properties none = .ok [] := by decide +kernel
  have hencryption : encryptionOf machine properties = .ok ⟨false, false, none⟩ := by
    decide +kernel
  obtain ⟨profile, hbuild⟩ := exists_build (none : Option Unit) hhosts hencryption
  have he := (of_build hbuild).1.symm.trans hhosts
  exact ⟨by decide +kernel, by decide +kernel, profile, hbuild, Except.ok.inj he⟩

end ConnectionConfig.ClientProfile
