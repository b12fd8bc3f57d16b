import Mathlib.Algebra.GroupWithZero.Nat
import ConnectionConfig.Files.FileTree
import ConnectionConfig.Proofs.PropertyMap.Offers
import ConnectionConfig.Proofs.Trust.Files
import ConnectionConfig.PropertyMap.Setting

/-!
# What a trust list is made of

A trust list that can be put together holds the anchors of seven sources, source by source: nothing
of a source is left out, comes twice or is told of another source. The file that a connection names
comes first and changes nothing of what comes after it.
-/

namespace ConnectionConfig.TrustList

/-- Anchors from several sources as entries, source by source. -/
def ofSources (sources : List (TrustSource × List TrustAnchor)) :
    List (TrustSource × TrustAnchor) :=
  sources.flatMap fun s ↦ s.2.map fun anchor ↦ (s.1, anchor)

/-- The anchors of a trust list from a source. -/
def anchorsFrom (t : TrustList) (source : TrustSource) : List TrustAnchor :=
  (t.entries.filter fun entry ↦ entry.1 == source).map Prod.snd

/-- As many entries are counted for a source as there are anchors from it. -/
theorem count_eq_length_anchorsFrom (t : TrustList) (source : TrustSource) :
    t.count source = (t.anchorsFrom source).length := by
  rw [count, anchorsFrom, List.length_map]

private theorem anchorsFrom_ofSources_eq_flatMap (sources : List (TrustSource × List TrustAnchor))
    (source : TrustSource) :
    anchorsFrom ⟨ofSources sources⟩ source =
      sources.flatMap fun s ↦ if s.1 = source then s.2 else [] := by
  rw [anchorsFrom, ofSources, List.filter_flatMap, List.map_flatMap]
  apply List.flatMap_congr
  intro s _
  by_cases h : s.1 = source
  · simp [h, List.filter_map, Function.comp_def]
  · simp [h]

/-- What several sources give, source by source, comes from these sources: from each of them all
that it gives, in the same order, if they are different. -/
theorem anchorsFrom_ofSources {sources : List (TrustSource × List TrustAnchor)}
    (hdistinct : (sources.map Prod.fst).Nodup) {s : TrustSource × List TrustAnchor}
    (hs : s ∈ sources) : anchorsFrom ⟨ofSources sources⟩ s.1 = s.2 := by
  rw [anchorsFrom_ofSources_eq_flatMap]
  induction sources with
  | nil => cases hs
  | cons first rest ih =>
    rw [List.map_cons, List.nodup_cons] at hdistinct
    obtain ⟨hfresh, hrest⟩ := hdistinct
    rw [List.flatMap_cons]
    rcases List.mem_cons.mp hs with rfl | hs
    -- The first source stands nowhere else, so that the others give nothing of it.
    · have hothers : ∀ other ∈ rest, (if other.1 = s.1 then other.2 else []) = [] := by
        intro other ho
        have hne : other.1 ≠ s.1 := fun he ↦ hfresh (he ▸ List.mem_map_of_mem ho)
        exact if_neg hne
      rw [if_pos rfl, List.flatMap_eq_nil_iff.mpr hothers, List.append_nil]
    · have hne : first.1 ≠ s.1 := fun he ↦ hfresh (he ▸ List.mem_map_of_mem hs)
      rw [if_neg hne, List.nil_append, ih hrest hs]

/-- There are as many entries as the counts for the sources make together, if they are different. -/
theorem size_ofSources {sources : List (TrustSource × List TrustAnchor)}
    (hdistinct : (sources.map Prod.fst).Nodup) :
    size ⟨ofSources sources⟩ =
      (sources.map fun s ↦ count ⟨ofSources sources⟩ s.1).sum := by
  have hcounts : (sources.map fun s ↦ count ⟨ofSources sources⟩ s.1) =
      sources.map fun s ↦ s.2.length := by
    apply List.map_congr_left
    intro s hs
    rw [count_eq_length_anchorsFrom, anchorsFrom_ofSources hdistinct hs]
  rw [hcounts, size, ofSources, List.length_flatMap]
  simp only [List.length_map]

/-- The seven sources of a trust list in their order, with the anchors that they give: `caFile`,
`global` and `regional` are the certificates of the file that the connection names and of the two
bundles that may be installed. A trust store that cannot be read gives nothing. -/
def sources (machine : Machine) (caFile global regional : List Certificate) :
    List (TrustSource × List TrustAnchor) :=
  [(.caFile, caFile.map .certificate),
    (.installedBundle "global-bundle.pem", global.map .certificate),
    (.installedBundle "rds-prod-root-ca-2021.pem", regional.map .certificate),
    (.shippedBundle ShippedBundle.currentRoots.name,
      ShippedBundle.currentRoots.certificates.map .certificate),
    (.shippedBundle ShippedBundle.olderRoot.name,
      ShippedBundle.olderRoot.certificates.map .certificate),
    (.platform, (machine.trustStore.getD []).map .certificate),
    (.rootProgram, rootProgram)]

private theorem nodup_sources (machine : Machine) (caFile global regional : List Certificate) :
    ((sources machine caFile global regional).map Prod.fst).Nodup := by
  simp only [sources, List.map_cons, List.map_nil]
  decide

private theorem entries_eq_ofSources (machine : Machine)
    (caFile global regional : List Certificate) :
    ofCertificates .caFile caFile ++
      [ofCertificates (.installedBundle "global-bundle.pem") global,
        ofCertificates (.installedBundle "rds-prod-root-ca-2021.pem") regional].flatten ++
      ofShippedBundles ++ ofPlatform machine ++ ofRootProgram =
      ofSources (sources machine caFile global regional) := by
  simp only [ofSources, sources, ofShippedBundles, ShippedBundle.all, ofPlatform, ofRootProgram,
    ofCertificates, List.flatMap_cons, List.flatMap_nil, List.flatten_cons, List.flatten_nil,
    List.map_map, List.append_nil, List.append_assoc]
  rfl

/-- A trust list is put together from the file that the connection names, from the bundles that are
installed, and from what is always there. -/
theorem gather_eq_ok_iff {machine : Machine} {properties : PropertyMap} {t : TrustList} :
    gather machine properties = .ok t ↔ ∃ caFile global regional,
      IsFromCaFile machine properties caFile ∧ IsFromBundle machine "global-bundle.pem" global ∧
        IsFromBundle machine "rds-prod-root-ca-2021.pem" regional ∧
        t = ⟨ofSources (sources machine caFile global regional)⟩ := by
  rw [gather, bind_eq_ok_iff]
  simp only [bind_eq_ok_iff, mapM_eq_ok_iff, ofCaFile_eq_ok_iff, installableBundles,
    List.forall₂_cons_left_iff, List.forall₂_nil_left_iff, ofInstalledBundle_eq_ok_iff]
  constructor
  · rintro ⟨_, ⟨caFile, hcaFile, rfl⟩, _, ⟨_, _, ⟨global, hglobal, rfl⟩,
      ⟨_, _, ⟨regional, hregional, rfl⟩, rfl, rfl⟩, rfl⟩, he⟩
    rw [entries_eq_ofSources] at he
    cases he
    exact ⟨caFile, global, regional, hcaFile, hglobal, hregional, rfl⟩
  · rintro ⟨caFile, global, regional, hcaFile, hglobal, hregional, rfl⟩
    refine ⟨_, ⟨caFile, hcaFile, rfl⟩, _, ⟨_, _, ⟨global, hglobal, rfl⟩,
      ⟨_, _, ⟨regional, hregional, rfl⟩, rfl, rfl⟩, rfl⟩, ?_⟩
    rw [entries_eq_ofSources]
    rfl

/-- Without the file that the connection names, the trust list lacks the certificates of that file
and nothing else. -/
theorem gather_unset_tlsCaFile {machine : Machine} {properties : PropertyMap}
    {global regional : List Certificate}
    (hglobal : IsFromBundle machine "global-bundle.pem" global)
    (hregional : IsFromBundle machine "rds-prod-root-ca-2021.pem" regional) :
    gather machine (properties.unset .tlsCaFile) =
      .ok ⟨ofSources (sources machine [] global regional)⟩ := by
  refine gather_eq_ok_iff.mpr ⟨[], global, regional, .unnamed ?_, hglobal, hregional, rfl⟩
  rw [PropertyMap.getNonBlank?, PropertyMap.unset, PropertyMap.get?_erase, if_pos rfl]
  rfl

/-- A trust list that can be put together holds the certificates of the file that the connection
names, those of the two bundles where they are installed, those of the shipped bundles, those of the
platform if its trust store can be read, and the entries of the root program, in this order and
nothing else. From each source it holds exactly what that source gives, the counts for the sources
make up its size, and if the connection names no file only the certificates of that file go. -/
theorem entries_of_gather {machine : Machine} {properties : PropertyMap} {t : TrustList}
    (h : gather machine properties = .ok t) :
    ∃ caFile global regional, IsFromCaFile machine properties caFile ∧
      IsFromBundle machine "global-bundle.pem" global ∧
      IsFromBundle machine "rds-prod-root-ca-2021.pem" regional ∧
      (caFile ≠ [] ↔ (properties.getNonBlank? Property.tlsCaFile.name).isSome = true) ∧
      (global ≠ [] ↔ machine.files.contains (machine.locate "global-bundle.pem") = true) ∧
      (regional ≠ [] ↔
        machine.files.contains (machine.locate "rds-prod-root-ca-2021.pem") = true) ∧
      t.entries = ofSources (sources machine caFile global regional) ∧
      (∀ s ∈ sources machine caFile global regional, t.anchorsFrom s.1 = s.2) ∧
      t.size = ((sources machine caFile global regional).map fun s ↦ t.count s.1).sum ∧
      ∃ rest, gather machine (properties.unset .tlsCaFile) = .ok rest ∧
        t.entries = ofCertificates .caFile caFile ++ rest.entries := by
  obtain ⟨caFile, global, regional, hcaFile, hglobal, hregional, rfl⟩ := gather_eq_ok_iff.mp h
  have hdistinct := nodup_sources machine caFile global regional
  refine ⟨caFile, global, regional, hcaFile, hglobal, hregional, hcaFile.ne_nil_iff,
    hglobal.ne_nil_iff, hregional.ne_nil_iff, rfl, fun s hs ↦ anchorsFrom_ofSources hdistinct hs,
    size_ofSources hdistinct, _, gather_unset_tlsCaFile hglobal hregional, ?_⟩
  rw [ofCertificates, ofSources, ofSources, sources, sources, List.flatMap_cons, List.flatMap_cons,
    List.map_map]
  rfl

/-- A file with two certificates below the home directory, one bundle of the two in a search folder,
and no trust store that can be read. -/
theorem entries_of_gather_two_files :
    let first : List Char := "-----BEGIN CERTIFICATE-----\nMAA=\n-----END CERTIFICATE-----\n".toList
    let second : List Char := "-----BEGIN CERTIFICATE-----\nMAEA\n-----END CERTIFICATE-----".toList
    let files := (FileTree.empty.put ⟨"/home/ann/ca.pem"⟩ (.file (Utf8.encode (first ++ second)))).put
      ⟨"/etc/docdb/global-bundle.pem"⟩ (.file (Utf8.encode first))
    let machine : Machine :=
      ⟨files.toFileSystem ⟨"/"⟩, ⟨some ⟨"/home/ann"⟩, [⟨"/etc/docdb"⟩]⟩, none⟩
    let properties := PropertyMap.ofList [("tls", "true"), ("tlsCAFile", "~/ca.pem")]
    ∃ t, gather machine properties = .ok t ∧ ∃ caFile global, caFile ≠ [] ∧ global ≠ [] ∧
      t.entries = ofSources (sources machine caFile global []) ∧
      t.anchorsFrom .caFile = caFile.map .certificate ∧ t.anchorsFrom .platform = [] := by
  intro first second files machine properties
  have hname : properties.getNonBlank? Property.tlsCaFile.name = some "~/ca.pem" := by
    decide +kernel
  have hcaFile : IsFromCaFile machine properties [⟨[0x30, 0x00]⟩, ⟨[0x30, 0x01, 0x00]⟩] :=
    .named hname (by decide +kernel) (readBundle_eq_ok_iff.mp (by decide +kernel))
  have hglobal : IsFromBundle machine "global-bundle.pem" [⟨[0x30, 0x00]⟩] :=
    .present (by decide +kernel) (readBundle_eq_ok_iff.mp (by decide +kernel))
  have hregional : IsFromBundle machine "rds-prod-root-ca-2021.pem" [] :=
    .absent (by decide +kernel)
  have hgather := gather_eq_ok_iff.mpr ⟨_, _, _, hcaFile, hglobal, hregional, rfl⟩
  obtain ⟨caFile, global, regional, -, -, -, hset, hfound, hmissing, hentries, hfrom, -, -⟩ :=
    entries_of_gather hgather
  have hnil : regional = [] := by
    by_contra hne
    exact absurd (hmissing.mp hne) (by decide +kernel)
  subst hnil
  exact ⟨_, hgather, caFile, global, hset.mpr (by decide +kernel), hfound.mpr (by decide +kernel),
    hentries, hfrom (.caFile, _) (by simp [sources]),
    hfrom (.platform, []) (by simp [sources, machine])⟩

end ConnectionConfig.TrustList
