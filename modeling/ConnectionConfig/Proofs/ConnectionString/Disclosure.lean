import ConnectionConfig.Proofs.ConnectionString.Password

/-!
# What errors disclose

As long as a password does not end the authority, errors do not go by it: whatever the password is,
reading fails in one and the same way, but for the two errors that say no more than that the
password cannot be read or has no host after it. A password with a slash, a question mark or a
number sign in it ends the authority early. What stands before that sign is then taken for hosts,
and what follows for a path or a query, and there errors do show what they cannot read.
-/

namespace ConnectionConfig

namespace Uri

private theorem exists_readUserInfo_eq (user : List Char) :
    ∃ name, ∀ word, ∃ password, readUserInfo (user ++ ':' :: word) = (name, password) := by
  have hcut : ∃ before, ∀ word, ∃ after,
      Text.cutFirst? ':' (user ++ ':' :: word) = some (before, after) := by
    rcases Text.forall_or_exists_cut (· != ':') user with hall | ⟨before, c, after, rfl, hb, hc⟩
    · exact ⟨user, fun word ↦ ⟨word, Text.cutFirst?_append_cons word fun hm ↦
        absurd (hall _ hm) (by decide)⟩⟩
    · have hcolon : c = ':' := by simpa using hc
      refine ⟨before, fun word ↦ ⟨after ++ ':' :: word, ?_⟩⟩
      rw [hcolon, List.append_assoc, List.cons_append]
      exact Text.cutFirst?_append_cons _ fun hm ↦ absurd (hb _ hm) (by decide)
  obtain ⟨before, hcut⟩ := hcut
  refine ⟨Percent.encode Percent.inUserInfo before, fun word ↦ ?_⟩
  obtain ⟨after, ha⟩ := hcut word
  rw [readUserInfo, ha]
  cases after with
  | nil => exact ⟨_, rfl⟩
  | cons c after => exact ⟨_, rfl⟩

/-- What follows a colon in the user information reaches the password alone, unless there is no
host. -/
theorem exists_ofAuthority_eq (user hosts rest : List Char) :
    ∃ outcome : Except UriError Uri, ∀ word,
      ofAuthority (some (user ++ ':' :: word)) hosts rest = .error .emptyHost ∨
      ∃ password, ofAuthority (some (user ++ ':' :: word)) hosts rest =
        outcome.map fun uri ↦ { uri with password } := by
  obtain ⟨name, hname⟩ := exists_readUserInfo_eq user
  have hne : ∀ word, (some (user ++ ':' :: word) == some []) = false := by simp
  cases hr : readHostAndPort hosts with
  | error e =>
    refine ⟨.error e, fun word ↦ .inr ⟨none, ?_⟩⟩
    rw [ofAuthority, hne, hr]
    rfl
  | ok parts =>
    obtain ⟨host, port, afterPort⟩ := parts
    refine ⟨.ok {
      user := name, password := none, host, port
      path := readPathAfterAuthority ((afterPort ++ rest).takeWhile fun c ↦ !endsPath c)
      query := readQuery ((afterPort ++ rest).dropWhile fun c ↦ !endsPath c) }, fun word ↦ ?_⟩
    obtain ⟨password, hp⟩ := hname word
    rw [ofAuthority, hne, hr]
    simp only [Bool.false_and, Bool.false_eq_true, if_false, Option.getD_some, hp]
    split
    · exact .inl rfl
    · exact .inr ⟨password, rfl⟩

end Uri

namespace ConnectionString

open Uri (withPassword endsAuthority)

/-- What an error says of a password that cannot be read. -/
def unreadablePassword : ConnectionError :=
  .invalidValue Property.password.name "<password>"

private theorem eq_of_mapM_password {password : Option (List Char)} {e : ConnectionError}
    (h : password.toList.mapM (readPart .password) = .error e) : e = unreadablePassword := by
  cases password with
  | none => cases h
  | some part =>
    rw [Option.toList_some, List.mapM_cons, readPart] at h
    split at h
    · cases h
    · cases h
      rfl

private theorem error_of_offersAfterHost {schema : Schema} {options : Option String} {uri : Uri}
    {password : Option (List Char)} {e : ConnectionError}
    (h : offersAfterHost schema options { uri with password } = .error e) :
    e = unreadablePassword ∨
      offersAfterHost schema options { uri with password := none } = .error e := by
  simp only [offersAfterHost, bind_eq_error_iff] at h ⊢
  -- The stage that fails is before the password, the password itself, or after it.
  rcases h with hu | ⟨user, hu, hp | ⟨texts, -, hrest⟩⟩
  · exact .inr (.inl hu)
  · exact .inl (eq_of_mapM_password hp)
  · refine .inr (.inr ⟨user, hu, .inr ⟨[], rfl, ?_⟩⟩)
    rcases hrest with hd | ⟨database, hd, hq | ⟨query, hq, ho | ⟨_, -, hok⟩⟩⟩
    · exact .inl hd
    · exact .inr ⟨database, hd, .inl hq⟩
    · exact .inr ⟨database, hd, .inr ⟨query, hq, .inl ho⟩⟩
    · cases hok

private theorem exists_error_of_outcome (schema : Schema) (options : Option String)
    (outcome : Except UriError Uri) :
    ∃ shared : Option ConnectionError, ∀ password e,
      ((outcome.map fun uri ↦ { uri with password }).mapError ConnectionError.malformedUri >>=
        offersAfterHost schema options) = .error e →
      e = unreadablePassword ∨ shared = some e := by
  cases outcome with
  | error e' =>
    refine ⟨some (.malformedUri e'), fun password e h ↦ .inr ?_⟩
    cases h
    rfl
  | ok uri =>
    -- The shared error is the one without a password.
    cases hn : offersAfterHost schema options { uri with password := none } with
    | error e' =>
      refine ⟨some e', fun password e h ↦ (error_of_offersAfterHost h).imp_right fun he ↦ ?_⟩
      rw [hn] at he
      cases he
      rfl
    | ok entries =>
      refine ⟨none, fun password e h ↦ (error_of_offersAfterHost h).imp_right fun he ↦ ?_⟩
      rw [hn] at he
      cases he

/-- There is at most one error that all passwords share which do not end the authority. Any other
says that the password cannot be read, or that it has no host after it. -/
theorem exists_error_of_withPassword (schema : Schema) (options : Option String)
    {user : List Char} (tail : List Char) (hu : ∀ c ∈ user, endsAuthority c = false) :
    ∃ shared : Option ConnectionError, ∀ password, (∀ c ∈ password, endsAuthority c = false) →
      ∀ e, offers schema options (withPassword user password tail) = .error e →
        e = unreadablePassword ∨ e = .malformedUri .emptyHost ∨ shared = some e := by
  obtain ⟨separated, hseparated⟩ := exists_separateHosts_withPassword_eq tail hu
  cases separated with
  | error e' =>
    refine ⟨some e', fun password hp e h ↦ .inr (.inr ?_)⟩
    rw [offers_eq, hseparated password hp] at h
    cases h
    rfl
  | ok parts =>
    obtain ⟨tail', hostList⟩ := parts
    obtain ⟨late, hosts, rest, -, hread⟩ := Uri.exists_read_withPassword_eq tail' hu
    obtain ⟨outcome, houtcome⟩ :=
      Uri.exists_ofAuthority_eq (user.filter fun c ↦ !Uri.isIgnored c) hosts rest
    -- Everything up to here was found without a password; it comes in only now.
    obtain ⟨shared, hshared⟩ := exists_error_of_outcome schema options outcome
    refine ⟨shared, fun password hp e h ↦ ?_⟩
    have hbind := (offers_eq_error_iff_of_separated (hseparated password hp)).mp h
    rw [hread password hp] at hbind
    rcases houtcome ((password.filter fun c ↦ !Uri.isIgnored c) ++ late) with he | ⟨found, hf⟩
    · rw [he] at hbind
      cases hbind
      exact .inr (.inl rfl)
    · rw [hf] at hbind
      exact (hshared found e hbind).imp_right .inr

private theorem error_of_map {ε α β : Type} {f : α → β} {x : Except ε α} {e : ε}
    (h : x.map f = .error e) : x = .error e :=
  map_eq_error_iff.mp h

private theorem message_of_malformedUri {e : ConnectionError} {cause : UriError}
    (h : (ConnectionError.malformedUri cause).ctorIdx = e.ctorIdx) :
    (ConnectionError.malformedUri cause).message = e.message := by
  cases e with
  | malformedUri _ => rfl
  | _ => cases h

/-- Errors of the same kind for two passwords that do not end the authority have the same text,
unless one of them says that the password cannot be read, without showing it. -/
theorem message_eq_of_read_error {schema : Schema} {scheme : String} {options : Option String}
    {seed : PropertyMap} {user tail p q : String} {e e' : ConnectionError}
    (hu : ∀ c ∈ user.toList, endsAuthority c = false)
    (hp : ∀ c ∈ p.toList, endsAuthority c = false) (hq : ∀ c ∈ q.toList, endsAuthority c = false)
    (h : read schema scheme options seed (scheme ++ ("//" ++ user ++ ":" ++ p ++ "@" ++ tail)) =
      .error e)
    (h' : read schema scheme options seed (scheme ++ ("//" ++ user ++ ":" ++ q ++ "@" ++ tail)) =
      .error e')
    (hkind : e.ctorIdx = e'.ctorIdx) :
    e.message = e'.message ∨ e = unreadablePassword ∨ e' = unreadablePassword := by
  have htext : ∀ word, ("//" ++ user ++ ":" ++ word ++ "@" ++ tail).toList =
      withPassword user.toList word.toList tail.toList := by
    intro word
    simp [withPassword]
  obtain ⟨shared, hshared⟩ := exists_error_of_withPassword schema options tail.toList hu
  rw [read_scheme_append _ _ _ _ (htext p)] at h
  rw [read_scheme_append _ _ _ _ (htext q)] at h'
  rcases hshared _ hp e (error_of_map h) with hread | rfl | hs
  · exact .inr (.inl hread)
  · exact .inl (message_of_malformedUri hkind)
  · rcases hshared _ hq e' (error_of_map h') with hread | rfl | hs'
    · exact .inr (.inr hread)
    · exact .inl (message_of_malformedUri hkind.symm).symm
    · rw [hs, Option.some.injEq] at hs'
      exact .inl (congrArg ConnectionError.message hs')

/-- A list of hosts behind the password that cannot be read is all that the error shows. -/
theorem message_eq_of_read_error_hostList :
    let text := fun password : String ↦
      scheme ++ ("//" ++ "ann" ++ ":" ++ password ++ "@" ++ "h1:1,h2:x/db")
    ∃ e e', read Schema.standard scheme none PropertyMap.empty (text "s3,cr") = .error e ∧
      read Schema.standard scheme none PropertyMap.empty (text "b") = .error e' ∧
      e.message = e'.message ∧ e.message = "'h2:x' is not a valid server address" := by
  intro text
  have hread : ∀ password ∈ ["s3,cr", "b"],
      read Schema.standard scheme none PropertyMap.empty (text password) =
        .error (.invalidAddress "h2:x") := by
    decide +kernel
  have hp := hread "s3,cr" (by simp)
  have hq := hread "b" (by simp)
  rcases message_eq_of_read_error (Text.forall_mem_of_all (by decide))
    (Text.forall_mem_of_all (by decide)) (Text.forall_mem_of_all (by decide)) hp hq rfl
    with hm | he | he
  · exact ⟨_, _, hp, hq, hm, rfl⟩
  · cases he
  · cases he

/-- A slash in the password ends the authority, and what stands before it is shown as a host that
has no address. -/
theorem message_shows_password_before_slash :
    (∀ c ∈ "s3,cr/t".toList, c ≠ '@') ∧ (∀ c ∈ "x,cr/t".toList, c ≠ '@') ∧
    ∃ e e', read Schema.standard scheme none PropertyMap.empty
        (scheme ++ ("//" ++ "ann" ++ ":" ++ "s3,cr/t" ++ "@" ++ "h1/db")) = .error e ∧
      read Schema.standard scheme none PropertyMap.empty
        (scheme ++ ("//" ++ "ann" ++ ":" ++ "x,cr/t" ++ "@" ++ "h1/db")) = .error e' ∧
      e.ctorIdx = e'.ctorIdx ∧ e.message = "'ann:s3' is not a valid server address" ∧
      e'.message = "'ann:x' is not a valid server address" := by
  refine ⟨Text.forall_mem_of_all (by decide), Text.forall_mem_of_all (by decide),
    .invalidAddress "ann:s3", .invalidAddress "ann:x", ?_, ?_, rfl, ?_, ?_⟩
  · decide +kernel
  · decide +kernel
  · decide +kernel
  · decide +kernel

end ConnectionString

end ConnectionConfig
