import Registrar.Proofs.Collisions
import Registrar.Proofs.Soundness

/-!
# Conflicts seen from either side

Of two modules that a registry would admit alone, it admits the second after the first if and only
if it admits the first after the second (`meets_only_comm`, demand by demand). Where it does not,
the two refusals mirror each other (`refused_either_way`): both are for the same kind of reason, and
a conflict over an address is reported from either side with the owners exchanged
(`Conflict.mirror`), as claims with one key have one address (`Module.address_of_key_eq`).
-/

namespace Registrar

open Text

/-! ## Addresses -/

/-- The claims of valid modules that have one key have one address. -/
theorem Module.address_of_key_eq {a b : Module} (ha : a.report? = none) (hb : b.report? = none)
    {mode : EndpointMode} {p q : String} {c d : Claim} (hc : c ∈ a.claims mode p)
    (hd : d ∈ b.claims mode q) (hk : c.key = d.key) :
    c.transport = d.transport ∧ c.method = d.method ∧ c.path = d.path := by
  have ht := Claim.transport_eq_of_key_eq hk
  refine ⟨ht, ?_⟩
  by_cases hhttp : c.transport = .http
  · have hhttp' : d.transport = .http := ht ▸ hhttp
    obtain ⟨k, hkm, hck⟩ := claim_method ha hc hhttp
    obtain ⟨l, hlm, hdl⟩ := claim_method hb hd hhttp'
    have hknown : ∀ l ∈ httpMethods, toUpper l = l ∧ ':' ∉ l.toList := by decide
    have hkey : c.key = Transport.key .http (some l) d.path := by
      rw [hk, Claim.key, hhttp', hdl]
    rcases (Claim.key_eq_http_iff hhttp hkm hck (hknown l hlm).1).1 hkey with ⟨hm, hp⟩ | hs
    · exact ⟨hm.trans hdl.symm, hp⟩
    · exact absurd hs.colon_mem (hknown l hlm).2
  · have hhttp' : d.transport ≠ .http := ht ▸ hhttp
    refine ⟨(claim_method_eq_none hc hhttp).trans (claim_method_eq_none hd hhttp').symm, ?_⟩
    rw [Claim.key, Claim.key, ht] at hk
    exact Transport.path_eq_of_key_eq hhttp' hk

namespace Conflict

/-- The conflict as it is reported from the other side. -/
def mirror (x : Conflict) : Conflict := { x with existing := x.incoming, incoming := x.existing }

/-- The address that is contested, with its key. -/
def address (x : Conflict) : Transport × Option String × String × String :=
  (x.transport, x.method, x.path, x.key)

theorem mirror_mirror (x : Conflict) : x.mirror.mirror = x := rfl

theorem address_mirror (x : Conflict) : x.mirror.address = x.address := rfl

end Conflict

namespace Registry

/-! ## A registry with one module -/

/-- The registry with this module alone. -/
def only (config : Config) (m : Module) : Registry :=
  ({ config } : Registry).enroll (({ config } : Registry).propose m).1

theorem get?_only {config : Config} {m : Module} {n : String} {e : Registration} :
    (only config m).modules.get? n = some e ↔
      n = m.name ∧ e = (({ config } : Registry).propose m).1 :=
  Dict.get?_insert_empty

theorem owner_only {config : Config} {m : Module} {t n : String} :
    (only config m).tables.get? t = some n ↔ t = m.table ∧ n = m.name :=
  Dict.get?_insert_empty

theorem forall_only {config : Config} {m : Module} {p : Registration → Prop} :
    (∀ n e, (only config m).modules.get? n = some e → p e) ↔
      p (({ config } : Registry).propose m).1 :=
  ⟨fun h => h _ _ (get?_only.2 ⟨rfl, rfl⟩), fun h _ _ he => (get?_only.1 he).2 ▸ h⟩

section
variable {config : Config} {a b : Module} (hb : ∀ d, ({ config } : Registry).Meets b d)
include hb

/-- The claims of a module that could stand alone do not disagree. -/
theorem reported_only : (only config a).reported b =
    (only config a).conflicts (({ config } : Registry).propose b).1.claims := by
  have hown : ((only config a).propose b).2 = [] := (own_conflicts_eq_nil_iff _ b).2 (hb .agreement)
  rw [reported, hown, List.nil_append]
  rfl

/-- Each address is reported once. -/
theorem addresses_nodup : (((only config a).reported b).map Conflict.address).Nodup := by
  have hkeys : ((only config a).reported b).Pairwise fun x y => x.key ≠ y.key := by
    rw [reported_only hb]
    refine (propose_proper _ hb).pairwise.filterMap _ fun c d hcd x hx y hy => ?_
    obtain ⟨_, -, rfl⟩ := Option.map_eq_some_iff.1 hx
    obtain ⟨_, -, rfl⟩ := Option.map_eq_some_iff.1 hy
    exact hcd
  exact List.pairwise_map.2 (hkeys.imp fun hxy he => hxy (congrArg (·.2.2.2) he))

end

section
variable {config : Config} {a b : Module} (ha : ∀ d, ({ config } : Registry).Meets a d)
include ha

theorem coherent_only : (only config a).Coherent := .enroll ha (.empty config)

theorem get?_path_only {t : Transport} {k : String} {c : Claim} :
    ((only config a).paths.on t).get? k = some c ↔
      c.IsAt t k ∧ c ∈ (({ config } : Registry).propose a).1.claims := by
  rw [(coherent_only ha).paths]
  refine and_congr_right fun _ => ⟨fun ⟨e, he, hc⟩ => (get?_only.1 he).2 ▸ hc, fun hc => ?_⟩
  have hn : c.module = a.name := (propose_proper _ ha).module_eq hc
  exact ⟨_, get?_only.2 ⟨hn, rfl⟩, hc⟩

variable (hb : ∀ d, ({ config } : Registry).Meets b d)
include hb

/-- What the first module's registry demands of the second, that of the second demands of the
first. -/
theorem meets_only_comm (d : Demand) :
    (only config a).Meets b d ↔ (only config b).Meets a d := by
  have hca := coherent_only ha
  have hcb := coherent_only hb
  cases d with
  | newName =>
    rw [hca.meets_newName_iff, hcb.meets_newName_iff, forall_only, forall_only]
    exact ne_comm
  | freeTable =>
    rw [hca.meets_freeTable_iff, hcb.meets_freeTable_iff, forall_only, forall_only]
    exact ne_comm
  | freePaths =>
    rw [hca.meets_freePaths_iff, hcb.meets_freePaths_iff, forall_only, forall_only]
    exact ⟨Module.Disjoint.symm, Module.Disjoint.symm⟩
  | room => exact Iff.rfl
  | ordinary => exact iff_of_true (hb .ordinary) (ha .ordinary)
  | valid => exact iff_of_true (hb .valid) (ha .valid)
  | fewClaims => exact iff_of_true (hb .fewClaims) (ha .fewClaims)
  | agreement => exact iff_of_true (hb .agreement) (ha .agreement)

/-! ## Reports -/

theorem mem_reported_only_iff {x : Conflict} :
    x ∈ (only config a).reported b ↔
      ∃ c ∈ (({ config } : Registry).propose a).1.claims,
        ∃ d ∈ (({ config } : Registry).propose b).1.claims, c.key = d.key ∧
          x = d.conflict c.owner := by
  rw [reported_only hb]
  simp only [conflicts, List.mem_filterMap, Option.map_eq_some_iff, get?_path_only ha]
  constructor
  · rintro ⟨d, hd, c, ⟨⟨-, hk⟩, hc⟩, rfl⟩
    exact ⟨c, hc, d, hd, hk, rfl⟩
  · rintro ⟨c, hc, d, hd, hk, rfl⟩
    exact ⟨d, hd, c, ⟨⟨Claim.transport_eq_of_key_eq hk, hk⟩, hc⟩, rfl⟩

theorem mirror_mem_reported {x : Conflict} (hx : x ∈ (only config a).reported b) :
    x.mirror ∈ (only config b).reported a := by
  obtain ⟨c, hc, d, hd, hk, rfl⟩ := (mem_reported_only_iff ha hb).1 hx
  obtain ⟨ht, hm, hp⟩ := Module.address_of_key_eq (ha .valid) (hb .valid)
    ((propose_proper _ ha).derived hc) ((propose_proper _ hb).derived hd) hk
  refine (mem_reported_only_iff hb ha).2 ⟨d, hd, c, hc, hk.symm, ?_⟩
  simp only [Claim.conflict, Conflict.mirror, ht, hm, hp, hk]

/-- The reports from either side mirror each other. -/
theorem reported_perm_mirror :
    ((only config b).reported a).Perm (((only config a).reported b).map Conflict.mirror) := by
  have hnodup : (((only config a).reported b).map Conflict.mirror).Nodup := by
    have haddr : Conflict.address ∘ Conflict.mirror = Conflict.address :=
      funext Conflict.address_mirror
    refine .of_map Conflict.address ?_
    rw [List.map_map, haddr]
    exact addresses_nodup hb
  rw [List.perm_ext_iff_of_nodup (.of_map _ (addresses_nodup ha)) hnodup]
  intro x
  rw [List.mem_map]
  constructor
  · intro hx
    exact ⟨x.mirror, mirror_mem_reported hb ha hx, x.mirror_mirror⟩
  · rintro ⟨y, hy, rfl⟩
    exact mirror_mem_reported ha hb hy

end

/-! ## Refusals -/

theorem eq_only_of_register {config : Config} {m : Module} {r : Registry} {e : Registration}
    (h : ({ config } : Registry).register m = .ok (r, e)) :
    (∀ d, ({ config } : Registry).Meets m d) ∧ r = only config m := by
  obtain ⟨hm, -, hr⟩ := register_eq_ok_iff.1 h
  exact ⟨hm, hr⟩

end Registry

/-- Two modules each of which an empty registry admits: the second is refused after the first if and
only if the first is refused after the second. Then both refusals are of one kind, those for a table
name the same table, and those for paths report each contested address once, the same addresses from
either side with the owners exchanged. -/
theorem refused_either_way {config : Config} {a b : Module} {ra rb : Registry}
    {ea eb : Registration} (ha : ({ config } : Registry).register a = .ok (ra, ea))
    (hb : ({ config } : Registry).register b = .ok (rb, eb)) :
    ((∃ x, ra.register b = .error x) ↔ ∃ y, rb.register a = .error y) ∧
    ∀ x y, ra.register b = .error x → rb.register a = .error y →
      x.code = y.code ∧
      (x.code = .tableConflict →
        ∃ t, x = .tableTaken b.name t a.name ∧ y = .tableTaken a.name t b.name) ∧
      (x.code = .pathConflict →
        ∃ xs ys, x = .pathsTaken b.name xs ∧ y = .pathsTaken a.name ys ∧
          (xs.map Conflict.address).Nodup ∧ (ys.map Conflict.address).Nodup ∧
          ys.Perm (xs.map Conflict.mirror)) := by
  obtain ⟨hma, rfl⟩ := Registry.eq_only_of_register ha
  obtain ⟨hmb, rfl⟩ := Registry.eq_only_of_register hb
  have hcomm := Registry.meets_only_comm hma hmb
  refine ⟨by simp only [Registry.register_eq_error_iff, hcomm], fun x y hx hy => ?_⟩
  -- the demand to blame for the one refusal is to blame for the other
  obtain ⟨d, hd, hbefore, hblame⟩ := Registry.exists_blamed hx
  obtain ⟨y', hy', hblame'⟩ := Registry.register_of_unmet (mt (hcomm d).2 hd)
    fun d' hlt => (hcomm d').1 (hbefore d' hlt)
  rw [hy] at hy'
  cases hy'
  refine ⟨hblame.code.trans hblame'.code.symm, fun hcode => ?_, fun hcode => ?_⟩
  · rw [hblame.code] at hcode
    cases d with
    | freeTable =>
      obtain ⟨n, hn, rfl⟩ := hblame
      obtain ⟨n', hn', rfl⟩ := hblame'
      obtain ⟨htable, rfl⟩ := Registry.owner_only.1 hn
      obtain ⟨-, rfl⟩ := Registry.owner_only.1 hn'
      exact ⟨b.table, rfl, by rw [htable]⟩
    | _ => cases hcode
  · rw [hblame.code] at hcode
    cases d with
    | agreement | freePaths =>
      obtain ⟨xs, -, rfl⟩ := hblame
      obtain ⟨ys, -, rfl⟩ := hblame'
      obtain ⟨-, -, rfl⟩ := Registry.register_eq_pathsTaken hx
      obtain ⟨-, -, rfl⟩ := Registry.register_eq_pathsTaken hy
      exact ⟨_, _, rfl, rfl, Registry.addresses_nodup hmb, Registry.addresses_nodup hma,
        Registry.reported_perm_mirror hma hmb⟩
    | _ => cases hcode

/-- Two modules with one address, each refused after the other. -/
theorem crossing_mirrored :
    let config : Config := { endpoints := .replaceImplicit }
    let shelf := crossingModule "shelf" ["list"]
    let book := crossingModule "book" ["get"]
    ∃ xs ys, (Registry.only config shelf).register book = .error (.pathsTaken "book" xs) ∧
      (Registry.only config book).register shelf = .error (.pathsTaken "shelf" ys) ∧
      xs.map (·.key) = ["http:GET:/x"] ∧ ys.Perm (xs.map Conflict.mirror) := by
  intro config shelf book
  have hshelf : ({ config } : Registry).register shelf =
      .ok (Registry.only config shelf, (({ config } : Registry).propose shelf).1) := by
    decide +kernel
  have hbook : ({ config } : Registry).register book =
      .ok (Registry.only config book, (({ config } : Registry).propose book).1) := by
    decide +kernel
  have hx : (Registry.only config shelf).register book = .error (.pathsTaken "book"
      [⟨.http, some "GET", "/x", "http:GET:/x", ⟨"shelf", "list"⟩, ⟨"book", "get"⟩⟩]) := by
    decide +kernel
  obtain ⟨heither, hmirror⟩ := refused_either_way hshelf hbook
  obtain ⟨y, hy⟩ := heither.1 ⟨_, hx⟩
  obtain ⟨xs, ys, hxs, rfl, -, -, hperm⟩ := (hmirror _ y hx hy).2.2 rfl
  cases hxs
  exact ⟨_, ys, hx, hy, rfl, hperm⟩

end Registrar
