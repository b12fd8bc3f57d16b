import Mathlib.Data.List.Find
import ConnectionConfig.Proofs.ClientProfile.Readers
import ConnectionConfig.Proofs.ConnectionString.Printing
import ConnectionConfig.Proofs.Property.Canonical
import ConnectionConfig.PropertyMap.Purpose

/-!
# Only canonical values count

Nothing that is done with a property map looks at more of a truth value, an integer or a keyword
than its canonical form. So a map may hold the canonical form in place of the value, and a value
without a canonical form may as well be missing.
-/

namespace ConnectionConfig

namespace PropertyMap

/-- Two maps are told apart by nothing that is done with a map: not by a reader, a printed form or
the check for a purpose, nor by the profile that a machine has for them or the error without one. -/
structure LooksLike (a b : PropertyMap) : Prop where
  openView : a.openView = b.openView
  password? : a.password? = b.password?
  printPublic :
    ConnectionString.printPublic Schema.standard a = ConnectionString.printPublic Schema.standard b
  printTunnel :
    ConnectionString.printTunnel Schema.standard a = ConnectionString.printTunnel Schema.standard b
  require : ∀ purpose, (a.require purpose).map (fun _ ↦ ()) = (b.require purpose).map fun _ ↦ ()
  build : ∀ {Listener : Type} (machine : Machine) (localPort : Option UInt16)
    (listener : Option Listener), ClientProfile.build machine a localPort listener =
      ClientProfile.build machine b localPort listener

/-- Two maps have the same texts, and the same canonical forms of all values. -/
structure SameValues (a b : PropertyMap) : Prop where
  texts : ∀ p : Property, p.type = .text → a.raw? p = b.raw? p
  canonical : ∀ p : Property,
    (a.raw? p).bind p.type.canonical? = (b.raw? p).bind p.type.canonical?

namespace SameValues

variable {a b : PropertyMap}

/-- The readers give the same. -/
theorem openView_eq (h : SameValues a b) : a.openView = b.openView :=
  openView_congr_of_texts (scalarView_congr fun parse p _ ↦ value?_congr parse (h.canonical p))
    fun p hp _ ↦ h.texts p hp

/-- The same deviates from the defaults. -/
theorem deviation?_eq (h : SameValues a b) (p : Property) :
    ConnectionString.deviation? a p.entry = ConnectionString.deviation? b p.entry :=
  ConnectionString.deviation?_congr_canonical? (h.canonical p)

/-- The form for logs is the same. -/
theorem printPublic_eq (h : SameValues a b) :
    ConnectionString.printPublic Schema.standard a =
      ConnectionString.printPublic Schema.standard b := by
  refine ConnectionString.printPublic_congr (ConnectionString.part_congr (h.texts .user rfl))
    (ConnectionString.part_congr (h.texts .host rfl))
    (ConnectionString.part_congr (h.texts .database rfl)) fun e he _ ↦ ?_
  obtain ⟨p, rfl⟩ := Schema.mem_entries_standard.mp he
  exact h.deviation?_eq p

/-- The form for the tunnel is the same. -/
theorem printTunnel_eq (h : SameValues a b) :
    ConnectionString.printTunnel Schema.standard a =
      ConnectionString.printTunnel Schema.standard b := by
  refine ConnectionString.printTunnel_congr (ConnectionString.part_congr (h.texts .host rfl))
    fun e he ↦ ?_
  rw [ConnectionString.filterMap_find?_tunnelProperties] at he
  obtain ⟨p, -, rfl⟩ := List.mem_map.mp he
  exact h.deviation?_eq p

private theorem type_of_mem_required {purpose : Purpose} :
    ∀ p ∈ purpose.required, p.type = .text := by
  cases purpose <;> decide

/-- The same is missing for a purpose: only texts are asked for. -/
theorem missing?_eq (h : SameValues a b) (purpose : Purpose) :
    a.missing? purpose = b.missing? purpose := by
  rw [missing?, missing?]
  apply List.find?_congr
  intro p hp
  rw [getNonBlank?_congr (h.texts p (type_of_mem_required p hp))]

/-- The check for a purpose has the same outcome. -/
theorem require_eq (h : SameValues a b) (purpose : Purpose) :
    (a.require purpose).map (fun _ ↦ ()) = (b.require purpose).map fun _ ↦ () := by
  rw [PropertyMap.require, PropertyMap.require, h.missing?_eq]
  cases b.missing? purpose with
  | some property => rfl
  | none => rfl

/-- Nothing tells maps with the same values apart. -/
theorem looksLike (h : SameValues a b) : LooksLike a b where
  openView := h.openView_eq
  password? := h.texts .password rfl
  printPublic := h.printPublic_eq
  printTunnel := h.printTunnel_eq
  require := h.require_eq
  build := ClientProfile.build_congr h.openView_eq (h.texts .password rfl)

end SameValues

/-- The map with the canonical form of a value in place of the value, or without the value if it has
no canonical form. -/
def canonicalize (m : PropertyMap) (p : Property) : PropertyMap :=
  match (m.raw? p).bind p.type.canonical? with
  | some value => m.putRaw p value
  | none => m.unset p

/-- The property has the canonical form as its value; the other properties keep theirs. -/
theorem raw?_canonicalize (m : PropertyMap) (p q : Property) :
    (m.canonicalize p).raw? q =
      if q = p then (m.raw? p).bind p.type.canonical? else m.raw? q := by
  rw [canonicalize]
  cases (m.raw? p).bind p.type.canonical? with
  | some value => exact raw?_putRaw m p value q
  | none => exact raw?_unset m p q

/-- The values stay the same, unless the property is a text, of which trimming is seen. -/
theorem sameValues_canonicalize (m : PropertyMap) {p : Property} (h : p.type ≠ .text) :
    SameValues m (m.canonicalize p) where
  texts := by
    intro q hq
    rw [raw?_canonicalize, if_neg]
    rintro rfl
    exact h hq
  canonical := by
    intro q
    rw [raw?_canonicalize]
    split
    · next hq =>
      subst hq
      cases hc : (m.raw? q).bind q.type.canonical? with
      | none => rfl
      | some value =>
        obtain ⟨raw, -, hraw⟩ := Option.bind_eq_some_iff.mp hc
        rw [Option.bind_some, ValueType.canonical?_self hraw]
    · rfl

/-- Nothing tells a map from the one with the canonical form in place of a truth value, an integer
or a keyword, or without the property if the value has no canonical form. -/
theorem looksLike_canonicalize (m : PropertyMap) {p : Property} {raw : String}
    (hraw : m.raw? p = some raw) (htype : p.type ≠ .text) :
    (∀ value, p.type.canonical? raw = some value → LooksLike m (m.putRaw p value)) ∧
      (p.type.canonical? raw = none → LooksLike m (m.unset p)) := by
  have hlike := (sameValues_canonicalize m htype).looksLike
  rw [canonicalize, hraw, Option.bind_some] at hlike
  constructor
  · intro value hvalue
    rwa [hvalue] at hlike
  · intro hnone
    rwa [hnone] at hlike

/-- A truth value in capitals, a number with a sign and zeros, and a number that is none. -/
theorem looksLike_canonicalize_tls_timeout_limit :
    let m := ofList
      [("tls", " TRUE"), ("host", "h"), ("loginTimeoutSec", "+007\n"), ("scanLimit", "1e3")]
    LooksLike m (ofList
      [("tls", "true"), ("host", "h"), ("loginTimeoutSec", "+007\n"), ("scanLimit", "1e3")]) ∧
    LooksLike m (ofList
      [("tls", " TRUE"), ("host", "h"), ("loginTimeoutSec", "7"), ("scanLimit", "1e3")]) ∧
    LooksLike m (ofList [("tls", " TRUE"), ("host", "h"), ("loginTimeoutSec", "+007\n")]) := by
  intro m
  have hrawTls : m.raw? .tls = some " TRUE" := by decide +kernel
  have hrawTimeout : m.raw? .loginTimeout = some "+007\n" := by decide +kernel
  have hrawLimit : m.raw? .scanLimit = some "1e3" := by decide +kernel
  have htls := (looksLike_canonicalize m hrawTls (by decide)).1 "true" (by decide +kernel)
  have htimeout := (looksLike_canonicalize m hrawTimeout (by decide)).1 "7" (by decide +kernel)
  have hlimit := (looksLike_canonicalize m hrawLimit (by decide)).2 (by decide +kernel)
  have htrue : m.putRaw .tls "true" = ofList
      [("tls", "true"), ("host", "h"), ("loginTimeoutSec", "+007\n"), ("scanLimit", "1e3")] := by
    decide +kernel
  have hseven : m.putRaw .loginTimeout "7" = ofList
      [("tls", " TRUE"), ("host", "h"), ("loginTimeoutSec", "7"), ("scanLimit", "1e3")] := by
    decide +kernel
  have hgone : m.unset .scanLimit = ofList
      [("tls", " TRUE"), ("host", "h"), ("loginTimeoutSec", "+007\n")] := by
    decide +kernel
  rw [htrue] at htls
  rw [hseven] at htimeout
  rw [hgone] at hlimit
  exact ⟨htls, htimeout, hlimit⟩

end PropertyMap

end ConnectionConfig
