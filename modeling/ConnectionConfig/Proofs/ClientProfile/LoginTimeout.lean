import ConnectionConfig.Files.FileTree
import ConnectionConfig.Proofs.ClientProfile.Validated
import ConnectionConfig.Proofs.PropertyMap.Changes

/-!
# Login timeouts that are kept

A login timeout is set as an unsigned word and kept as a numeral. The numeral is read as a signed
word, so that the lower half of the unsigned words comes back as it was set. A timeout in the upper
half is lost: it counts as none, and neither a reader nor a profile knows of it.
-/

namespace ConnectionConfig

namespace Decimal

private theorem readInt?_ofNat (n : Nat) : readInt? (ofNat n) = some (n : Int) := by
  have hof : ofInt (n : Int) = ofNat n := by
    rw [ofInt, if_neg (by omega), Int.natAbs_natCast]
  rw [← hof, readInt?_ofInt]

/-- A written unsigned word is read as a signed one if it is no larger than these are. -/
theorem readInt32?_ofUInt32 (n : UInt32) :
    readInt32? (ofUInt32 n).toList =
      if n ≤ 2147483647 then some (Int32.ofInt n.toNat) else none := by
  have hrange : -2147483648 ≤ (n.toNat : Int) ∧ (n.toNat : Int) ≤ 2147483647 ↔
      n ≤ 2147483647 := by
    have hlimit : (2147483647 : UInt32).toNat = 2147483647 := rfl
    rw [UInt32.le_iff_toNat_le, hlimit]
    omega
  rw [readInt32?, ofUInt32, String.toList_ofList, readInt?_ofNat, Option.bind_some]
  simp only [hrange]

/-- A written unsigned word is not empty. -/
theorem ofUInt32_ne_empty (n : UInt32) : ofUInt32 n ≠ "" := by
  intro h
  have hread := readNat?_ofNat n.toNat
  rw [← String.toList_ofList (l := ofNat n.toNat), ← ofUInt32, h] at hread
  cases hread

/-- A signed word that comes from the lower half of the unsigned ones goes back there. -/
theorem toInt_ofInt_of_le {n : UInt32} (h : n ≤ 2147483647) :
    (Int32.ofInt n.toNat).toInt = n.toNat := by
  have hn : n.toNat ≤ 2147483647 := UInt32.le_iff_toNat_le.mp h
  exact Int32.toInt_ofInt_of_le (by omega) (by omega)

end Decimal

namespace PropertyMap

/-- What is left of a login timeout that was set. -/
def keptTimeout? (seconds : UInt32) : Option UInt32 :=
  if seconds ≤ 2147483647 then some seconds else none

/-- A login timeout is read as a signed word. -/
theorem number?_set_loginTimeout (m : PropertyMap) (seconds : UInt32) :
    (m.set (.loginTimeout seconds)).number? .loginTimeout =
      (keptTimeout? seconds).map fun n ↦ Int32.ofInt n.toNat := by
  have hraw : (m.set (.loginTimeout seconds)).raw? .loginTimeout =
      some (Decimal.ofUInt32 seconds) :=
    (raw?_putRaw m _ _ _).trans (if_pos rfl)
  have hcanonical : Property.loginTimeout.type.canonical? (Decimal.ofUInt32 seconds) =
      (keptTimeout? seconds).map fun n ↦ Decimal.ofInt32 (Int32.ofInt n.toNat) := by
    have htrimmed : Text.IsTrimmed (Decimal.ofUInt32 seconds).toList := by
      rw [Decimal.ofUInt32, String.toList_ofList]
      exact Decimal.isTrimmed_ofNat _
    rw [ValueType.canonical?_of_isTrimmed htrimmed (Decimal.ofUInt32_ne_empty seconds)]
    change (Decimal.readInt32? _).map _ = _
    rw [Decimal.readInt32?_ofUInt32, keptTimeout?]
    split <;> rfl
  rw [number?, value?, hraw, Option.bind_some, hcanonical]
  cases keptTimeout? seconds with
  | none => rfl
  | some n =>
    rw [Option.map_some, Option.bind_some, Decimal.readInt32?_ofInt32]
    rfl

/-- A login timeout comes back if a signed word holds it, and is lost otherwise. -/
theorem loginTimeout?_set (m : PropertyMap) (seconds : UInt32) :
    (m.set (.loginTimeout seconds)).loginTimeout? = keptTimeout? seconds := by
  rw [loginTimeout?, number?_set_loginTimeout, keptTimeout?]
  split
  · next h =>
    have hint := Decimal.toInt_ofInt_of_le h
    rw [Option.map_some, Option.bind_some, hint, if_pos (by omega), Int.toNat_natCast,
      UInt32.ofNat_toNat]
  · rfl

end PropertyMap

namespace ClientProfile

variable {Listener : Type} {machine : Machine} {properties : PropertyMap}
  {localPort : Option UInt16} {listener : Option Listener} {profile : ClientProfile Listener}

/-- The timeout of a profile is the login timeout. -/
theorem connectTimeout_of_build (h : build machine properties localPort listener = .ok profile) :
    profile.connectTimeout = properties.loginTimeout? := by
  obtain ⟨hosts, -, hrest⟩ := bind_eq_ok_iff.mp h
  obtain ⟨encryption, -, he⟩ := bind_eq_ok_iff.mp hrest
  cases he
  rfl

/-- A login timeout that was set is what the reader gives and what every profile has, as long as a
signed word holds it. A longer one is not kept: there is no timeout then. -/
theorem connectTimeout_of_set_loginTimeout (m : PropertyMap) (seconds : UInt32)
    (machine : Machine) (localPort : Option UInt16) (listener : Option Listener) :
    (m.set (.loginTimeout seconds)).loginTimeout? = PropertyMap.keptTimeout? seconds ∧
      ∀ profile, build machine (m.set (.loginTimeout seconds)) localPort listener = .ok profile →
        profile.connectTimeout = PropertyMap.keptTimeout? seconds := by
  refine ⟨m.loginTimeout?_set seconds, fun profile h ↦ ?_⟩
  rw [connectTimeout_of_build h, m.loginTimeout?_set]

/-- The longest timeout that is kept, in place of a text that is no timeout. -/
theorem connectTimeout_of_longest :
    let m := PropertyMap.ofList [("loginTimeoutSec", "soon"), ("host", "h1")]
    let machine : Machine := ⟨FileTree.empty.toFileSystem ⟨"/"⟩, .standard none none, none⟩
    ∃ profile : ClientProfile Unit,
      build machine (m.set (.loginTimeout 2147483647)) none none = .ok profile ∧
        profile.connectTimeout = some 2147483647 := by
  intro m machine
  have hhosts : hostsOf machine (m.set (.loginTimeout 2147483647)) none = .ok [⟨"h1", 27017⟩] := by
    decide +kernel
  have hencryption : encryptionOf machine (m.set (.loginTimeout 2147483647)) =
      .ok ⟨false, false, none⟩ := by
    decide +kernel
  obtain ⟨profile, hbuild⟩ := exists_build (none : Option Unit) hhosts hencryption
  exact ⟨profile, hbuild, (connectTimeout_of_set_loginTimeout m _ machine none none).2 _ hbuild⟩

/-- One second more is lost: it is set, but there is no timeout. -/
theorem connectTimeout_lost :
    let m := PropertyMap.empty.set (.host "h1")
    let machine : Machine := ⟨FileTree.empty.toFileSystem ⟨"/"⟩, .standard none none, none⟩
    (m.set (.loginTimeout 2147483648)).raw? .loginTimeout = some "2147483648" ∧
      (m.set (.loginTimeout 2147483648)).loginTimeout? = none ∧
      ∃ profile : ClientProfile Unit,
        build machine (m.set (.loginTimeout 2147483648)) none none = .ok profile ∧
          profile.connectTimeout = none := by
  intro m machine
  have hlost : (m.set (.loginTimeout 2147483648)).loginTimeout? = none := by decide +kernel
  have hhosts : hostsOf machine (m.set (.loginTimeout 2147483648)) none = .ok [⟨"h1", 27017⟩] := by
    decide +kernel
  have hencryption : encryptionOf machine (m.set (.loginTimeout 2147483648)) =
      .ok ⟨false, false, none⟩ := by
    decide +kernel
  obtain ⟨profile, hbuild⟩ := exists_build (none : Option Unit) hhosts hencryption
  exact ⟨by decide +kernel, hlost, profile, hbuild, (connectTimeout_of_build hbuild).trans hlost⟩

end ClientProfile

end ConnectionConfig
