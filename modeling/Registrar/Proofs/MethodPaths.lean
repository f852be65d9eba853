import Registrar.Proofs.Joining

/-!
# Paths of methods

The path of a gRPC claim is to be `/{package.}{Service}/{Method}` (`IsMethodPath`): two segments,
and in them the names of a service and a method. A claim is made with the service as it stands in
its package, and with the compound form of its action, and its path is then normalized. It has the
shape exactly if the service in its package is a canonical segment and both names are identifiers
(`isMethodPath_normalize_iff`). No declaration is refused for its package or for names that compound
forms are made of, so there are valid modules for which this is not so. `Module.method_path_iff`
says for which, by the first characters of the names.
-/

namespace Registrar

open Text

/-- A service as its package qualifies it. -/
def qualified (package : Option String) (service : String) : String :=
  match package with
  | some package => package ++ "." ++ service
  | none => service

/-- The path is `/{package.}{Service}/{Method}`. -/
structure IsMethodPath (package : Option String) (service method path : String) : Prop where
  shape : path = "/" ++ qualified package service ++ "/" ++ method
  segments : Transport.segments .grpc path = [qualified package service, method]
  service : Naming.isIdentifier service = true
  method : Naming.isIdentifier method = true

/-! ## Services in packages -/

namespace Path

theorem IsCanonical.head?_ne {c d : Char} {s : List Char} (h : IsCanonical (c :: d :: s)) :
    c ≠ ':' := by
  rintro rfl
  have hparam : canonicalSegment (':' :: d :: s) = param (d :: s) := rfl
  have heq := hparam.symm.trans h.canonical
  exact absurd (List.cons.inj heq).1 (by decide)

theorem toList_qualified (package service : String) :
    (qualified (some package) service).toList = package.toList ++ '.' :: service.toList := by
  simp only [qualified, String.toList_append, List.append_assoc]
  rfl

/-- In a package a service is a canonical segment unless the package has a slash or begins with a
colon. -/
theorem isCanonical_qualified_iff {package : Option String} {service : String}
    (hp : ∀ p, package = some p → p ≠ "" ∧ trim p = p) (hs : Naming.isIdentifier service = true) :
    IsCanonical (qualified package service).toList ↔
      ∀ p, package = some p → '/' ∉ p.toList ∧ p.toList.head? ≠ some ':' := by
  have hplain := isPlain_of_isIdentifier hs
  cases package with
  | none => exact iff_of_true hplain.isCanonical nofun
  | some p =>
    obtain ⟨hne, htrim⟩ := hp p rfl
    obtain ⟨c, cs, hcs⟩ := List.exists_cons_of_ne_nil (mt String.toList_eq_nil_iff.1 hne)
    have hq : (qualified (some p) service).toList = (p.toList ++ ['.']) ++ service.toList := by
      rw [toList_qualified, List.append_cons]
    simp only [Option.some.injEq, forall_eq']
    constructor
    · intro h
      rw [toList_qualified] at h
      refine ⟨fun hm => h.segment.2 (List.mem_append_left _ hm), fun hc => ?_⟩
      rw [hcs] at h hc
      cases cs with
      | nil => exact h.head?_ne (Option.some.inj hc)
      | cons d cs => exact h.head?_ne (Option.some.inj hc)
    · rintro ⟨hslash, hcolon⟩
      have hhead : (qualified (some p) service).toList.head? = p.toList.head? := by
        rw [toList_qualified, hcs]
        rfl
      refine ⟨⟨?_, ?_⟩, ?_, ?_⟩
      · rw [toList_qualified]
        simp
      · rw [toList_qualified]
        simp [hslash, hplain.slash_notMem]
      · rw [hq, hplain.trimmed_append, ← hq]
        refine dropBlanks_eq_self fun d hd => ?_
        -- the package is trimmed, so its first character is no blank
        rw [hhead, ← htrim, toList_trim] at hd
        exact isBlank_head?_trimmed hd
      · refine canonicalSegment_eq_self (hhead ▸ hcolon) fun ha => ?_
        rw [hq] at ha
        exact hplain.getLast?_append_ne (by decide) _ ha.2

end Path

/-! ## The shape of a path -/

theorem toList_method_path (q method : String) :
    ("/" ++ q ++ "/" ++ method).toList = '/' :: q.toList ++ '/' :: method.toList := by
  simp only [String.toList_append, List.append_assoc]
  rfl

theorem absolute_method_path (q method : String) :
    isAbsolute ("/" ++ q ++ "/" ++ method) = true := by
  apply Path.isAbsolute_of_head
  rw [toList_method_path]
  rfl

/-- A path made of a service and a method has the segments of both. -/
theorem segmentsOf_method_path (q method : String) :
    Path.segmentsOf ("/" ++ q ++ "/" ++ method).toList =
      Path.segmentsOf q.toList ++ Path.segmentsOf method.toList := by
  rw [toList_method_path, Path.segmentsOf_append, Path.segmentsOf_cons (.inr rfl)]

theorem isMethodPath_normalize_iff {package : Option String} {service method : String} :
    IsMethodPath package service method
        (Path.normalize ("/" ++ qualified package service ++ "/" ++ method)) ↔
      Path.IsCanonical (qualified package service).toList ∧ Naming.isIdentifier service = true ∧
        Naming.isIdentifier method = true := by
  have habs := absolute_method_path (qualified package service) method
  have hsegments : Transport.segments .grpc
      (Path.normalize ("/" ++ qualified package service ++ "/" ++ method)) =
        (Path.segmentsOf (qualified package service).toList ++
          Path.segmentsOf method.toList).map String.ofList := by
    rw [Path.segments_normalize (by decide) habs, Path.segmentsOf_trimmed, segmentsOf_method_path]
  constructor
  · intro h
    refine ⟨?_, h.service, h.method⟩
    -- it is one of the segments, and these are canonical
    have hfirst : (qualified package service).toList ∈
        Path.segmentsOf ("/" ++ qualified package service ++ "/" ++ method).toList := by
      have hmem : qualified package service ∈ Transport.segments .grpc
          (Path.normalize ("/" ++ qualified package service ++ "/" ++ method)) := by
        rw [h.segments]
        exact List.mem_cons_self
      rw [hsegments] at hmem
      obtain ⟨l, hl, hq⟩ := List.mem_map.1 hmem
      have hql : l = (qualified package service).toList := by rw [← hq, String.toList_ofList]
      rw [hql] at hl
      rw [segmentsOf_method_path]
      exact hl
    exact Path.isCanonical_of_mem_segmentsOf hfirst
  · rintro ⟨hq, hs, hm⟩
    have hplain := Path.isPlain_of_isIdentifier hm
    have htwo : Path.segmentsOf ("/" ++ qualified package service ++ "/" ++ method).toList =
        [(qualified package service).toList, method.toList] := by
      rw [segmentsOf_method_path, Path.segmentsOf_of_isCanonical hq, hplain.segmentsOf]
      rfl
    refine ⟨?_, ?_, hs, hm⟩
    · rw [← String.toList_inj, Path.normalize, String.toList_ofList,
        Path.normalized_of_rooted (Path.toList_trim_head habs), Path.segmentsOf_trimmed, htwo,
        toList_method_path, List.intercalate_cons_cons, List.intercalate_singleton]
      simp
    · rw [hsegments, ← segmentsOf_method_path, htwo]
      simp

/-! ## Claims -/

namespace Module

/-- The name of the gRPC service, its package aside. -/
def serviceName (m : Module) : String :=
  m.channels.grpc.service.getD (Naming.toPascal m.name ++ "Service")

/-- The package of the gRPC service. -/
def package? (m : Module) : Option String := nonBlank? m.channels.grpc.package

theorem grpcService_eq (m : Module) : m.grpcService = qualified m.package? m.serviceName := by
  unfold grpcService qualified package?
  cases nonBlank? m.channels.grpc.package <;> rfl

theorem package?_trimmed {m : Module} {p : String} (h : m.package? = some p) :
    p ≠ "" ∧ trim p = p := by
  obtain ⟨hmap, hne⟩ := Option.filter_eq_some_iff.1 h
  obtain ⟨s, -, rfl⟩ := Option.map_eq_some_iff.1 hmap
  refine ⟨of_decide_eq_true hne, ?_⟩
  rw [← String.toList_inj, toList_trim, toList_trim, trimmed_trimmed]

/-- A gRPC claim is made for an action, with the compound form of its name. -/
theorem grpcClaim_path {m : Module} {mode : EndpointMode} {plural : String} {c : Claim}
    (h : c ∈ m.claims mode plural) (ht : c.transport = .grpc) :
    c.action ∈ m.actionNames ∧ c.path = Path.normalize
      ("/" ++ qualified m.package? m.serviceName ++ "/" ++ Naming.toPascal c.action) := by
  rcases mem_claims_iff.1 h with ⟨-, h⟩ | ⟨-, h⟩ | ⟨-, rfl⟩ | ⟨-, rfl⟩ | ⟨-, h⟩
  · obtain ⟨method, path, action, rfl, -⟩ := mem_httpClaims h
    cases ht
  · obtain ⟨action, -, rfl⟩ := List.mem_map.1 h
    cases ht
  · cases ht
  · cases ht
  · obtain ⟨action, ha, rfl⟩ := List.mem_map.1 h
    refine ⟨ha, ?_⟩
    rw [← grpcService_eq]
    rfl

section
variable {m : Module} (hv : m.report? = none)
include hv

theorem isIdentRest_of_mem_name {c : Char} (h : c ∈ m.name.toList) :
    Naming.isIdentRest c = true := by
  have hname : m.name = "" ∨ Naming.isIdentifier m.name = true := by
    have hp := (List.append_eq_nil_iff.1 (List.append_eq_nil_iff.1 (List.append_eq_nil_iff.1
      ((report?_eq_none_iff m).1 hv)).1).1).1
    unfold identityProblems at hp
    split at hp
    · have hd := demand_eq_nil_iff.1 (List.append_eq_nil_iff.1 hp).2
      simpa using hd
    · have hn := (List.append_eq_nil_iff.1 hp).1
      split at hn
      · cases hn
      · exact .inr (demand_eq_nil_iff.1 hn)
  rcases hname with hn | hn
  · rw [hn] at h
    cases h
  · exact (Naming.isIdentifier_iff.1 hn).2 c h

/-- A service that is named is named by an identifier; one that is not has a compound name. -/
theorem isIdentifier_serviceName_iff : Naming.isIdentifier m.serviceName = true ↔
    (m.channels.grpc.service = none →
      ∀ k ∈ (m.name.toList.dropWhile Naming.isSeparator).head?, k.isAlpha = true) := by
  have hword : Naming.isIdentifier "Service" = true := by decide
  unfold serviceName
  cases hs : m.channels.grpc.service with
  | none =>
    rw [Option.getD_none,
      Naming.isIdentifier_toPascal_append_iff (fun _ => isIdentRest_of_mem_name hv) hword]
    exact ⟨fun h _ => h, fun h => h rfl⟩
  | some service =>
    have hc := channelProblems_eq_nil hv
    simp only [channelProblems, List.append_eq_nil_iff, List.flatMap_eq_nil_iff, hs,
      Option.mem_toList, demand_eq_nil_iff] at hc
    exact iff_of_true (hc.2 service rfl) fun he => absurd he (Option.some_ne_none service)

/-- The path of a gRPC claim is that of a method exactly if the package has no slash and does not
begin with a colon, a service without a name of its own belongs to a module in whose name no digit
follows the separators at the start, and in the name of the action a letter follows them. -/
theorem method_path_iff {mode : EndpointMode} {plural : String} {c : Claim}
    (h : c ∈ m.claims mode plural) (ht : c.transport = .grpc) :
    IsMethodPath m.package? m.serviceName (Naming.toPascal c.action) c.path ↔
      (∀ p, m.package? = some p → '/' ∉ p.toList ∧ p.toList.head? ≠ some ':') ∧
      (m.channels.grpc.service = none →
        ∀ k ∈ (m.name.toList.dropWhile Naming.isSeparator).head?, k.isAlpha = true) ∧
      ∃ k ∈ (c.action.toList.dropWhile Naming.isSeparator).head?, k.isAlpha = true := by
  obtain ⟨ha, hpath⟩ := grpcClaim_path h ht
  obtain ⟨-, haction⟩ := Naming.isIdentifier_iff.1 (isIdentifier_of_mem_actionNames hv ha)
  rw [hpath, isMethodPath_normalize_iff, ← isIdentifier_serviceName_iff hv,
    ← Naming.isIdentifier_toPascal_iff haction]
  constructor
  · rintro ⟨hq, hs, hm⟩
    exact ⟨(Path.isCanonical_qualified_iff (fun _ => package?_trimmed) hs).1 hq, hs, hm⟩
  · rintro ⟨hp, hs, hm⟩
    exact ⟨(Path.isCanonical_qualified_iff (fun _ => package?_trimmed) hs).2 hp, hs, hm⟩

end

end Module

/-- A module on gRPC with a package and one action beside the implicit ones. -/
def rosterModule (action : String) : Module where
  name := "_roster"
  schema := .ofList [("title", { type := "string" })]
  actions := .ofList [(action, {})]
  channels := { grpc := { enabled := true, package := some " acme.v1 " } }

/-- The claim of this action. -/
def rosterClaim (action path : String) : Claim :=
  { transport := .grpc, path, module := "_roster", action }

/-- Underscores at the start of names do no harm where letters follow. -/
theorem reset_password_documented :
    (rosterModule "_reset_password").report? = none ∧
    rosterClaim "_reset_password" "/acme.v1.RosterService/ResetPassword" ∈
      (rosterModule "_reset_password").claims .additive "rosters" ∧
    IsMethodPath (some "acme.v1") "RosterService" "ResetPassword"
      "/acme.v1.RosterService/ResetPassword" := by
  have hv : (rosterModule "_reset_password").report? = none := by decide +kernel
  have hc : rosterClaim "_reset_password" "/acme.v1.RosterService/ResetPassword" ∈
      (rosterModule "_reset_password").claims .additive "rosters" := by decide +kernel
  have hpackage : (rosterModule "_reset_password").package? = some "acme.v1" := by decide
  have hservice : (rosterModule "_reset_password").serviceName = "RosterService" := by decide
  have hmethod : Naming.toPascal "_reset_password" = "ResetPassword" := by decide
  have h := Module.method_path_iff hv hc rfl
  rw [hpackage, hservice] at h
  refine ⟨hv, hc, hmethod ▸ h.2 ⟨?_, ?_, ?_⟩⟩
  · rintro p hp
    cases hp
    exact ⟨by decide, by decide⟩
  · have hfirst : ("_roster".toList.dropWhile Naming.isSeparator).head? = some 'r' := by decide
    rintro - k hk
    cases hfirst.symm.trans hk
    decide
  · exact ⟨'r', by decide, by decide⟩

/-- Of an action whose name is an underscore nothing is left for the method: the path has one
segment. -/
theorem underscore_undocumented :
    (rosterModule "_").report? = none ∧
    rosterClaim "_" "/acme.v1.RosterService" ∈ (rosterModule "_").claims .additive "rosters" ∧
    ∀ package service method, ¬ IsMethodPath package service method "/acme.v1.RosterService" := by
  refine ⟨by decide +kernel, by decide +kernel, fun package service method h => ?_⟩
  have hsegments : Transport.segments .grpc "/acme.v1.RosterService" =
      ["acme.v1.RosterService"] := by decide
  have hlength := congrArg List.length h.segments
  rw [hsegments] at hlength
  cases hlength

end Registrar
