import ConnectionConfig.Proofs.Property.Entries
import ConnectionConfig.PropertyMap.Setting

/-!
# All readers of a property map at once

What the readers give is collected in records, so that two maps are told to look the same to all of
them in one equation. The password stands apart, and so do the values that are not plain texts: of
these no more is read than the canonical form.
-/

namespace ConnectionConfig.PropertyMap

/-- What the readers give that know the values of their property: truth values, integers and
keywords. -/
@[ext]
structure ScalarView where
  tls : Bool
  tlsAllowInvalidHostnames : Bool
  retryReads : Bool
  loginTimeout? : Option UInt32
  readPreference? : Option ReadPreference
  scanMethod : ScanMethod
  scanLimit? : Option Int32
  sshStrictHostKeyChecking : Bool
  defaultFetchSize? : Option Int32
  refreshSchema : Bool
  allowDiskUse : DiskUse
  deriving DecidableEq

/-- What all readers give but the one for the password. -/
@[ext]
structure OpenView where
  scalars : ScalarView
  host? : Option String
  user? : Option String
  database? : Option String
  applicationName : String
  replicaSet? : Option String
  tlsCaFile? : Option String
  schemaName : String
  sshUser? : Option String
  sshHost? : Option String
  sshPrivateKeyFile? : Option String
  sshPrivateKeyPassphrase? : Option String
  sshKnownHostsFile? : Option String
  authenticationDatabase : String
  describesTunnel : Bool
  deriving DecidableEq

/-- What the readers give that know the values of their property. -/
def scalarView (m : PropertyMap) : ScalarView where
  tls := m.tls
  tlsAllowInvalidHostnames := m.tlsAllowInvalidHostnames
  retryReads := m.retryReads
  loginTimeout? := m.loginTimeout?
  readPreference? := m.readPreference?
  scanMethod := m.scanMethod
  scanLimit? := m.scanLimit?
  sshStrictHostKeyChecking := m.sshStrictHostKeyChecking
  defaultFetchSize? := m.defaultFetchSize?
  refreshSchema := m.refreshSchema
  allowDiskUse := m.allowDiskUse

/-- What all readers give but the one for the password. -/
def openView (m : PropertyMap) : OpenView where
  scalars := m.scalarView
  host? := m.host?
  user? := m.user?
  database? := m.database?
  applicationName := m.applicationName
  replicaSet? := m.replicaSet?
  tlsCaFile? := m.tlsCaFile?
  schemaName := m.schemaName
  sshUser? := m.sshUser?
  sshHost? := m.sshHost?
  sshPrivateKeyFile? := m.sshPrivateKeyFile?
  sshPrivateKeyPassphrase? := m.sshPrivateKeyPassphrase?
  sshKnownHostsFile? := m.sshKnownHostsFile?
  authenticationDatabase := m.authenticationDatabase
  describesTunnel := m.describesTunnel

/-- What all readers give but the ones for the password and the host. -/
def OpenView.besideHost (v : OpenView) : OpenView := { v with host? := none }

/-- The host makes up the rest. -/
theorem OpenView.eq_of_besideHost {v w : OpenView} (h : v.besideHost = w.besideHost)
    (hhost : v.host? = w.host?) : v = w := by
  calc v = { v.besideHost with host? := v.host? } := rfl
    _ = { w.besideHost with host? := w.host? } := by rw [h, hhost]
    _ = w := rfl

/-- A raw value that is put is the one of its property; the other properties keep theirs. -/
theorem raw?_putRaw (m : PropertyMap) (p : Property) (raw : String) (q : Property) :
    (m.putRaw p raw).raw? q = if q = p then some raw else m.raw? q := by
  rw [PropertyMap.raw?, putRaw, get?_insert]
  simp only [Property.name_inj, raw?]

/-- A property that is unset has no raw value; the other properties keep theirs. -/
theorem raw?_unset (m : PropertyMap) (p q : Property) :
    (m.unset p).raw? q = if q = p then none else m.raw? q := by
  rw [PropertyMap.raw?, unset, get?_erase]
  simp only [Property.name_inj, raw?]

section Congruence

variable {a b : PropertyMap}

/-- What is read of a value goes by its canonical form. -/
theorem value?_congr {α : Type} (parse : String → Option α) {p : Property}
    (h : (a.raw? p).bind p.type.canonical? = (b.raw? p).bind p.type.canonical?) :
    a.value? parse p = b.value? parse p := by
  rw [value?, value?, h]

/-- A text with a default goes by the raw value. -/
theorem rawOrDefault_congr {p : Property} (h : a.raw? p = b.raw? p) :
    a.rawOrDefault p = b.rawOrDefault p := by
  rw [rawOrDefault, rawOrDefault, h]

/-- A value that is not blank goes by the raw value. -/
theorem getNonBlank?_congr {p : Property} (h : a.raw? p = b.raw? p) :
    a.getNonBlank? p.name = b.getNonBlank? p.name := by
  rw [getNonBlank?, getNonBlank?]
  exact congrArg _ h

/-- Readers that know the values of their property go by what is read of it. -/
theorem scalarView_congr
    (h : ∀ {α : Type} (parse : String → Option α) (p : Property), p.entry.printed = true →
      a.value? parse p = b.value? parse p) :
    a.scalarView = b.scalarView := by
  have hflag : ∀ p : Property, p.entry.printed = true → a.flag p = b.flag p := fun p hp ↦
    congrArg (Option.getD · false) (h readBoolean? p hp)
  have hnumber : ∀ p : Property, p.entry.printed = true → a.number? p = b.number? p := fun p hp ↦
    h _ p hp
  apply ScalarView.ext
  · exact hflag .tls (by decide)
  · exact hflag .tlsAllowInvalidHostnames (by decide)
  · exact hflag .retryReads (by decide)
  · exact congrArg (Option.bind · _) (hnumber .loginTimeout (by decide))
  · exact h _ .readPreference (by decide)
  · exact congrArg (Option.getD · _) (h _ .scanMethod (by decide))
  · exact hnumber .scanLimit (by decide)
  · exact hflag .sshStrictHostKeyChecking (by decide)
  · exact hnumber .defaultFetchSize (by decide)
  · exact hflag .refreshSchema (by decide)
  · exact congrArg (Option.getD · _) (h _ .allowDiskUse (by decide))

/-- All readers but the ones for the password and the host go by the values that are read of their
property, and by the raw values of the other texts. -/
theorem besideHost_congr (hscalars : a.scalarView = b.scalarView)
    (h : ∀ p : Property, p.type = .text → p ≠ .password → p ≠ .host → a.raw? p = b.raw? p) :
    a.openView.besideHost = b.openView.besideHost := by
  have htunnel : a.describesTunnel = b.describesTunnel := by
    rw [describesTunnel, describesTunnel]
    simp only [List.all_cons, List.all_nil,
      getNonBlank?_congr (h .sshUser rfl (by decide) (by decide)),
      getNonBlank?_congr (h .sshHost rfl (by decide) (by decide)),
      getNonBlank?_congr (h .sshPrivateKeyFile rfl (by decide) (by decide))]
  apply OpenView.ext
  · exact hscalars
  · rfl
  · exact h .user rfl (by decide) (by decide)
  · exact h .database rfl (by decide) (by decide)
  · exact rawOrDefault_congr (h _ rfl (by decide) (by decide))
  · exact h .replicaSet rfl (by decide) (by decide)
  · exact h .tlsCaFile rfl (by decide) (by decide)
  · exact rawOrDefault_congr (h _ rfl (by decide) (by decide))
  · exact h .sshUser rfl (by decide) (by decide)
  · exact h .sshHost rfl (by decide) (by decide)
  · exact h .sshPrivateKeyFile rfl (by decide) (by decide)
  · exact h .sshPrivateKeyPassphrase rfl (by decide) (by decide)
  · exact h .sshKnownHostsFile rfl (by decide) (by decide)
  · exact rawOrDefault_congr (h _ rfl (by decide) (by decide))
  · exact htunnel

/-- All readers but the one for the password go by the values that are read of their property, and
by the raw values of the texts. -/
theorem openView_congr_of_texts (hscalars : a.scalarView = b.scalarView)
    (h : ∀ p : Property, p.type = .text → p ≠ .password → a.raw? p = b.raw? p) :
    a.openView = b.openView :=
  OpenView.eq_of_besideHost (besideHost_congr hscalars fun p ht hp _ ↦ h p ht hp)
    (h .host rfl (by decide))

private theorem scalarView_congr_of_raw?
    (h : ∀ p : Property, p.entry.printed = true → a.raw? p = b.raw? p) :
    a.scalarView = b.scalarView :=
  scalarView_congr fun parse p hp ↦ value?_congr parse (by rw [h p hp])

/-- All readers but the one for the password go by the raw values of the other properties. -/
theorem openView_congr (h : ∀ p, p ≠ .password → a.raw? p = b.raw? p) :
    a.openView = b.openView := by
  refine openView_congr_of_texts (scalarView_congr_of_raw? fun p hprinted ↦ h p ?_)
    fun p _ hp ↦ h p hp
  rintro rfl
  cases hprinted

/-- All readers but the ones for the password and the host go by the raw values of the other
properties. -/
theorem besideHost_congr_of_raw? (h : ∀ p, p ≠ .host → a.raw? p = b.raw? p) :
    a.openView.besideHost = b.openView.besideHost := by
  refine besideHost_congr (scalarView_congr_of_raw? fun p hprinted ↦ h p ?_)
    fun p _ _ hp ↦ h p hp
  rintro rfl
  cases hprinted

end Congruence

end ConnectionConfig.PropertyMap
