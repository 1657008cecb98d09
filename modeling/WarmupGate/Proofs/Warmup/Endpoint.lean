import WarmupGate.Proofs.Text.Cut
import WarmupGate.Proofs.Text.Integer
import WarmupGate.Proofs.Warmup.Overrides

/-!
# Web addresses of endpoints

The endpoint of a plan is free text, and an address may be written with the colon that also stands
before the port. Still a web address has one reading: the first slash behind the scheme ends what
says where a request goes, and the last colon before it begins the port. Nothing that an endpoint
holds reaches over that slash. Addresses with a slash or with brackets of their own are not looked
at, and neither is what a client makes of the path.
-/
namespace WarmupGate.Warmup

variable {p q : Plan} {a b address : String}

theorem head?_normalizePath (path : String) : (normalizePath path).toList.head? = some '/' := by
  by_cases slash : path.toList.head? = some '/'
  · rw [Plan.normalizePath_of_rooted slash, slash]
  · rw [Plan.normalizePath_of_bare slash, String.toList_append]
    rfl

theorem normalizePath_normalizePath (path : String) :
    normalizePath (normalizePath path) = normalizePath path :=
  Plan.normalizePath_of_rooted (head?_normalizePath path)

namespace Plan

/-- An address that neither ends what says where a request goes nor brings brackets of its own. -/
def PlainAddress (address : String) : Prop :=
  '/' ∉ address.toList ∧ '[' ∉ address.toList ∧ ']' ∉ address.toList

instance (address : String) : Decidable (PlainAddress address) :=
  inferInstanceAs (Decidable (_ ∧ _ ∧ _))

/-- An address as a web address has it: in brackets if it is written with colons. -/
def hostChars (address : String) : List Char :=
  if ':' ∈ address.toList then '[' :: (address.toList ++ [']']) else address.toList

/-- What a web address says about where a request goes. -/
def authority (port : Nat) (address : String) : List Char :=
  hostChars address ++ ':' :: Text.numeral port

theorem toList_hostText (plain : PlainAddress address) :
    (hostText address).toList = hostChars address := by
  have bare : (address.toList.head? != some '[') = true := by
    rw [bne_iff_ne]
    exact fun first => plain.2.1 (List.mem_of_head? first)
  have opened : "[".toList = ['['] := rfl
  have closed : "]".toList = [']'] := rfl
  unfold hostText hostChars
  by_cases colon : ':' ∈ address.toList
  · rw [if_pos (by simp only [List.contains_iff_mem.2 colon, bare, Bool.and_self]), if_pos colon]
    simp only [String.toList_append, opened, closed, List.cons_append, List.nil_append]
  · rw [if_neg (by simp [colon]), if_neg colon]

theorem toList_url (plain : PlainAddress address) :
    (p.url address).toList =
      "http://".toList ++ (authority p.port address ++ (normalizePath p.endpoint).toList) := by
  have colon : ":".toList = [':'] := rfl
  unfold url authority
  simp only [String.toList_append, toList_hostText plain, colon, Text.decimal,
    String.toList_ofList, List.append_assoc, List.cons_append, List.nil_append]

theorem not_mem_authority (plain : PlainAddress address) (port : Nat) :
    '/' ∉ authority port address := by
  have digits : '/' ∉ Text.numeral port := (Text.digits_numeral port).not_mem rfl
  unfold authority hostChars
  split <;> simp [plain.1, digits]

theorem authority_of_url (plain : PlainAddress address) :
    (authority p.port address ++ (normalizePath p.endpoint).toList).takeWhile (· ≠ '/') =
        authority p.port address ∧
      (authority p.port address ++ (normalizePath p.endpoint).toList).dropWhile (· ≠ '/') =
        (normalizePath p.endpoint).toList := by
  obtain ⟨rest, path⟩ := List.head?_eq_some_iff.1 (head?_normalizePath p.endpoint)
  rw [path]
  exact Text.takeWhile_ne_append (not_mem_authority plain p.port) rest

theorem hostChars_inj (ha : PlainAddress a) (hb : PlainAddress b)
    (same : hostChars a = hostChars b) : a = b := by
  apply String.toList_injective
  unfold hostChars at same
  -- brackets are a sign of colons, since no address brings its own
  split at same <;> split at same
  · exact List.append_cancel_right (List.cons.inj same).2
  · exact absurd (same ▸ List.mem_cons_self) hb.2.1
  · exact absurd (same ▸ List.mem_cons_self) ha.2.1
  · exact same

theorem authority_inj (ha : PlainAddress a) (hb : PlainAddress b) {m n : Nat}
    (same : authority m a = authority n b) : a = b ∧ m = n := by
  have digits (k : Nat) : ':' ∉ Text.numeral k := (Text.digits_numeral k).not_mem rfl
  obtain ⟨hosts, ports⟩ := Text.eq_of_append_cons (digits m) (digits n) same
  refine ⟨hostChars_inj ha hb hosts, ?_⟩
  rw [← Text.digitsValue_numeral m, ← Text.digitsValue_numeral n, ports]

theorem url_eq_iff (ha : PlainAddress a) (hb : PlainAddress b) :
    p.url a = q.url b ↔
      a = b ∧ p.port = q.port ∧ normalizePath p.endpoint = normalizePath q.endpoint := by
  constructor
  · intro same
    have chars := congrArg String.toList same
    rw [toList_url ha, toList_url hb] at chars
    have behind := List.append_cancel_left chars
    obtain ⟨authorities, paths⟩ := authority_of_url (p := p) ha
    rw [behind, (authority_of_url hb).1] at authorities
    rw [behind, (authority_of_url hb).2] at paths
    obtain ⟨addresses, ports⟩ := authority_inj hb ha authorities
    exact ⟨addresses.symm, ports.symm, String.toList_injective paths.symm⟩
  · rintro ⟨rfl, ports, paths⟩
    unfold url
    rw [ports, paths]

theorem url_normalized (p : Plan) (address : String) :
    { p with endpoint := normalizePath p.endpoint }.url address = p.url address := by
  unfold url
  rw [normalizePath_normalizePath]

theorem endpoint_of_given {pod : Pod} {plan : Plan} {value : String}
    (resolves : resolve pod = .ok plan) (given : Given pod Pod.Key.endpoint value) :
    plan.endpoint = normalizePath value := by
  have asked := endpoint_eq_iff.2 (resolve_eq_ok_iff.1 resolves).endpoint
  rwa [override?_eq_some_iff.2 given, Option.map_some, Option.getD_some] at asked

/-- Whatever the endpoint holds, what stands between the scheme and the next slash is the address,
in brackets exactly if it has a colon, and then a colon and the port; what follows is the endpoint
with a slash in front. So a web address is that of one address, one port and one path. A slash is
put in front once, whether it is looked for once, when a pod is resolved, or again in the web
address. -/
theorem urls_identify_targets :
    (∀ (p : Plan) (address : String), PlainAddress address →
        ∃ rest, (p.url address).toList = "http://".toList ++ rest ∧
          rest.takeWhile (· ≠ '/') = hostChars address ++ ':' :: Text.numeral p.port ∧
          rest.dropWhile (· ≠ '/') = (normalizePath p.endpoint).toList ∧
          (normalizePath p.endpoint).toList.head? = some '/') ∧
      (∀ (p q : Plan) (a b : String), PlainAddress a → PlainAddress b →
        (p.url a = q.url b ↔
          a = b ∧ p.port = q.port ∧ normalizePath p.endpoint = normalizePath q.endpoint)) ∧
      (∀ (p : Plan) (address : String),
        { p with endpoint := normalizePath p.endpoint }.url address = p.url address) ∧
      ∀ (pod : Pod) (plan : Plan) (value address : String), resolve pod = .ok plan →
        Given pod Pod.Key.endpoint value →
        plan.endpoint = normalizePath value ∧
          plan.url address = { plan with endpoint := value }.url address := by
  refine ⟨fun p address plain => ?_, fun p q a b ha hb => url_eq_iff ha hb,
    fun p address => url_normalized p address, fun pod plan value address resolves given => ?_⟩
  · obtain ⟨authorities, paths⟩ := authority_of_url plain
    exact ⟨_, toList_url plain, authorities, paths, head?_normalizePath p.endpoint⟩
  · have path := endpoint_of_given resolves given
    refine ⟨path, ?_⟩
    rw [← url_normalized { plan with endpoint := value }, ← path]

namespace Astray

/-- A pod whose endpoint looks like another host. -/
def pod : Pod :=
  { metadata := { annotations := [(Pod.Key.endpoint, "@other:80//x")] }
    spec := { containers := [{ name := "api", ports := [8080] }] } }

def plan : Plan := { endpoint := "/@other:80//x", port := 8080 }

/-- Requests to a pod with a colon address go there, and not to the host that its endpoint
mentions. -/
theorem urls_of_astray :
    PlainAddress "fd00::1" ∧ resolve pod = .ok plan ∧
      Given pod Pod.Key.endpoint "@other:80//x" ∧
      (∃ rest, (plan.url "fd00::1").toList = "http://".toList ++ rest ∧
        rest.takeWhile (· ≠ '/') = "[fd00::1]:8080".toList) ∧
      plan.url "fd00::1" ≠ plan.url "fd00::18" ∧
      plan.url "fd00::1" = { plan with endpoint := "@other:80//x" }.url "fd00::1" := by
  have plain : PlainAddress "fd00::1" := by decide
  have longer : PlainAddress "fd00::18" := by decide
  have resolves : resolve pod = .ok plan := by rfl
  have given : Given pod Pod.Key.endpoint "@other:80//x" := ⟨by rfl, by decide⟩
  obtain ⟨parts, targets, -, again⟩ := urls_identify_targets
  obtain ⟨rest, whole, goes, -⟩ := parts plan "fd00::1" plain
  refine ⟨plain, resolves, given, ⟨rest, whole, goes.trans (by decide)⟩, fun same => ?_,
    (again pod plan _ "fd00::1" resolves given).2⟩
  exact absurd ((targets plan plan _ _ plain longer).1 same).1 (by decide)

end Astray
end Plan
end WarmupGate.Warmup
