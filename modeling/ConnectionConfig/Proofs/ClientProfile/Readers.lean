import ConnectionConfig.ClientProfile
import ConnectionConfig.Proofs.PropertyMap.Views

/-!
# What a profile goes by

A profile is made of what the readers of a property map give. The one for the hosts matters only
where the servers come from the host text, which they do not if there is a tunnel.
-/

namespace ConnectionConfig.ClientProfile

variable {a b : PropertyMap}

private theorem credentialOf_congr (h : a.openView.besideHost = b.openView.besideHost)
    (hpassword : a.password? = b.password?) : credentialOf a = credentialOf b := by
  have huser : a.user? = b.user? := congrArg PropertyMap.OpenView.user? h
  have hsource : a.authenticationDatabase = b.authenticationDatabase :=
    congrArg PropertyMap.OpenView.authenticationDatabase h
  rw [credentialOf, credentialOf, huser, hpassword, hsource]

/-- The host text has no part in the tunnel. -/
theorem tunnelEnd?_congr (h : a.openView.besideHost = b.openView.besideHost)
    (machine : Machine) (localPort : Option UInt16) :
    tunnelEnd? machine a localPort = tunnelEnd? machine b localPort := by
  have htunnel : a.describesTunnel = b.describesTunnel :=
    congrArg PropertyMap.OpenView.describesTunnel h
  have hkey : keyFileExists machine a = keyFileExists machine b := by
    rw [keyFileExists, keyFileExists, PropertyMap.getNonBlank?_congr
      (congrArg PropertyMap.OpenView.sshPrivateKeyFile? h)]
  cases localPort with
  | none => rfl
  | some port => rw [tunnelEnd?, tunnelEnd?, htunnel, hkey]

private theorem encryptionOf_congr (h : a.openView.besideHost = b.openView.besideHost)
    (machine : Machine) :
    encryptionOf machine a = encryptionOf machine b := by
  have htls : a.tls = b.tls := congrArg (·.scalars.tls) h
  have hnames : a.tlsAllowInvalidHostnames = b.tlsAllowInvalidHostnames :=
    congrArg (·.scalars.tlsAllowInvalidHostnames) h
  have hgather : TrustList.gather machine a = TrustList.gather machine b := by
    rw [TrustList.gather, TrustList.gather, TrustList.ofCaFile, TrustList.ofCaFile,
      PropertyMap.getNonBlank?_congr (congrArg PropertyMap.OpenView.tlsCaFile? h)]
  rw [encryptionOf, encryptionOf, trustedBy, trustedBy, htls, hnames, hgather]

/-- A profile, or the error in its place, goes by the servers and by what the readers give beside
the host text. -/
theorem build_congr_of_hostsOf (h : a.openView.besideHost = b.openView.besideHost)
    (hpassword : a.password? = b.password?)
    {Listener : Type} {machine : Machine} {localPort : Option UInt16}
    (hhosts : hostsOf machine a localPort = hostsOf machine b localPort)
    (listener : Option Listener) :
    build machine a localPort listener = build machine b localPort listener := by
  have hreplicaSet : a.replicaSet? = b.replicaSet? :=
    congrArg PropertyMap.OpenView.replicaSet? h
  have htimeout : a.loginTimeout? = b.loginTimeout? := congrArg (·.scalars.loginTimeout?) h
  have hpreference : a.readPreference? = b.readPreference? :=
    congrArg (·.scalars.readPreference?) h
  have hname : a.applicationName = b.applicationName :=
    congrArg PropertyMap.OpenView.applicationName h
  have hretry : a.retryReads = b.retryReads := congrArg (·.scalars.retryReads) h
  rw [build, build, hhosts, encryptionOf_congr h, credentialOf_congr h hpassword, hreplicaSet,
    htimeout, hpreference, hname, hretry]

/-- A profile, or the error in its place, goes by what the readers give. -/
theorem build_congr (hopen : a.openView = b.openView) (hpassword : a.password? = b.password?)
    {Listener : Type} (machine : Machine) (localPort : Option UInt16)
    (listener : Option Listener) :
    build machine a localPort listener = build machine b localPort listener := by
  have h : a.openView.besideHost = b.openView.besideHost :=
    congrArg PropertyMap.OpenView.besideHost hopen
  have hhost : a.host? = b.host? := congrArg PropertyMap.OpenView.host? hopen
  refine build_congr_of_hostsOf h hpassword ?_ listener
  rw [hostsOf, hostsOf, tunnelEnd?_congr h, hhost]

end ConnectionConfig.ClientProfile
