import FleetDashboard.ApiServer.Objects
import FleetDashboard.Proofs.Uri

/-!
# Listing some namespaces

A single namespace is listed at a path of its own. Several are listed with all others and picked out
afterwards, and kinds outside of namespaces are listed whole. How a listing is asked for makes no
difference to what comes of it, whichever way the names are written; but a single name goes into the
path as it is, and if no path can be written with it, nothing is asked for at all.

* `Namespaces.Names`: the namespace of an object is one of those that a text names.
* `ApiClient.Lists`: what an API server lists.
* `ApiClient.Unwritable`: the only namespace wanted cannot be written in a path.
* `ApiClient.ListsAsStored`: what listing the namespaces of a text comes to.
* `ApiClient.listsAsStored_of_lists`: it comes to that on every API server that lists of a namespace
  what it stores of it.
-/

namespace FleetDashboard

/-! ## Names -/

namespace Namespaces

variable {wanted : Namespaces} {raw : Option String} {only : String} {ns : Option String}

/-- A text between commas names a namespace, unless it is empty; without any name all are meant. -/
def Names (raw ns : Option String) : Prop :=
  (∀ piece ∈ Text.splitString ',' (raw.getD ""), piece = "") ∨
    ∃ piece ∈ Text.splitString ',' (raw.getD ""), piece ≠ "" ∧ ns = some piece

/-- The only namespace wanted is the only name. -/
theorem single?_eq_some_iff : wanted.single? = some only ↔ wanted.names = [only] := by
  unfold single?
  split
  next other hnames => simp [hnames]
  next hmany =>
    constructor
    · intro h
      cases h
    · intro hnames
      exact absurd hnames (hmany only)

/-- What is wanted by a text is what it names. -/
theorem admits_parse_iff : (parse raw).admits ns = true ↔ Names raw ns := by
  have hnone : (parse raw).names.isEmpty = true ↔
      ∀ piece ∈ Text.splitString ',' (raw.getD ""), piece = "" := by
    rw [List.isEmpty_iff, parse, ofList, List.filter_eq_nil_iff]
    simp
  have hsome : (∃ name, ns = some name ∧ name ∈ (parse raw).names) ↔
      ∃ piece ∈ Text.splitString ',' (raw.getD ""), piece ≠ "" ∧ ns = some piece := by
    simp only [parse, ofList, List.mem_filter, decide_eq_true_eq]
    constructor
    · rintro ⟨name, hns, hpiece, hne⟩
      exact ⟨name, hpiece, hne, hns⟩
    · rintro ⟨piece, hpiece, hne, hns⟩
      exact ⟨piece, hns, hpiece, hne⟩
  unfold admits Names
  rw [Bool.or_eq_true, hnone, ← hsome]
  cases ns with
  | none => simp
  | some name => simp

instance (raw ns : Option String) : Decidable (Names raw ns) :=
  decidable_of_iff _ admits_parse_iff

/-- With a single name that is the namespace meant. -/
theorem names_of_single? (h : (parse raw).single? = some only) :
    Names raw ns ↔ ns = some only := by
  rw [← admits_parse_iff]
  unfold admits
  rw [single?_eq_some_iff.1 h]
  cases ns with
  | none => simp
  | some name => simp

end Namespaces

/-! ## Paths -/

namespace ResourcePath

variable {kind : ResourceKind} {inNamespace : Option String}

/-- The part of a path that comes with the kind starts at the root, and so does what is put behind
it. -/
theorem toList_ofKind (kind : ResourceKind) (inNamespace : Option String) :
    ∃ below, (ofKind kind inNamespace).toList = '/' :: below := by
  have hgroup : (group kind.group kind.version).toList.head? = some '/' := by
    cases kind <;> decide +kernel
  have hofKind : ∃ behind, ofKind kind inNamespace =
      group kind.group kind.version ++ behind := by
    unfold ofKind collection
    split
    next only _ =>
      exact ⟨"/namespaces/" ++ (only ++ ("/" ++ kind.plural)), by simp only [String.append_assoc]⟩
    next => exact ⟨"/" ++ kind.plural, String.append_assoc⟩
  obtain ⟨behind, hbehind⟩ := hofKind
  obtain ⟨below, hbelow⟩ := List.head?_eq_some_iff.1 hgroup
  refine ⟨below ++ behind.toList, ?_⟩
  rw [hbehind, String.toList_append, hbelow]
  rfl

/-- A path can be written if the name of the namespace can be. -/
theorem isPathChar_of_mem_ofKind
    (hname : ∀ name ∈ inNamespace, ∀ c ∈ name.toList, Uri.isPathChar c = true) :
    ∀ c ∈ (ofKind kind inNamespace).toList, Uri.isPathChar c = true := by
  have hgroup : ∀ c ∈ (group kind.group kind.version).toList, Uri.isPathChar c = true := by
    rw [← List.all_eq_true]
    cases kind <;> decide +kernel
  have hplural : ∀ c ∈ kind.plural.toList, Uri.isPathChar c = true := by
    rw [← List.all_eq_true]
    cases kind <;> decide +kernel
  have hbetween : ∀ c ∈ "/namespaces/".toList, Uri.isPathChar c = true := by
    rw [← List.all_eq_true]
    decide
  have hslash : ∀ c ∈ "/".toList, Uri.isPathChar c = true := by
    rw [← List.all_eq_true]
    decide
  intro c hc
  unfold ofKind collection at hc
  -- the name of a namespace stands in the path only if the kind has namespaces and one is wanted
  split at hc
  next only honly =>
    have hwanted : only ∈ inNamespace := by
      split at honly
      · exact honly
      · cases honly
    simp only [String.toList_append, List.mem_append] at hc
    rcases hc with (((hc | hc) | hc) | hc) | hc
    · exact hgroup c hc
    · exact hbetween c hc
    · exact hname only hwanted c hc
    · exact hslash c hc
    · exact hplural c hc
  next =>
    simp only [String.toList_append, List.mem_append] at hc
    rcases hc with (hc | hc) | hc
    · exact hgroup c hc
    · exact hslash c hc
    · exact hplural c hc

/-- A path that can be written and is not too long is read as it is. -/
theorem parse_ofKind
    (hname : ∀ name ∈ inNamespace, ∀ c ∈ name.toList, Uri.isPathChar c = true)
    (hsize : (ofKind kind inNamespace).utf8ByteSize ≤ Uri.maxBytes) :
    Uri.parse (ofKind kind inNamespace) =
      .ok { scheme := none, authority := "", writtenPath := ofKind kind inNamespace,
            query := none } := by
  obtain ⟨below, hbelow⟩ := toList_ofKind kind inNamespace
  exact Uri.parse_path hbelow (isPathChar_of_mem_ofKind hname) hsize

/-- Objects outside of namespaces are found at one path, whatever namespace is wanted. -/
theorem ofKind_of_clusterScoped (hkind : kind.isNamespaced = false) (inNamespace : Option String) :
    ofKind kind inNamespace = ofKind kind none := by
  rw [ofKind, ofKind, hkind]
  rfl

end ResourcePath

/-! ## Listings -/

namespace ApiClient

variable {client : ApiClient} {transport : Transport} {kind : ResourceKind} {wanted : Namespaces}
  {stored objects : List ApiObject} {raw : Option String}

/-- Whoever can ask an API server for the objects of a kind, all of them or those in a namespace, is
answered with these. -/
def Lists (client : ApiClient) (transport : Transport) (kind : ResourceKind)
    (inNamespace : Option String) (objects : List ApiObject) : Prop :=
  ∀ request, client.request readMethod (ResourcePath.ofKind kind inNamespace) none = .ok request →
    transport.fetch request (itemsOf ApiObject.decode) = .ok objects

/-- The only namespace wanted cannot be written in the path of its objects. -/
def Unwritable (kind : ResourceKind) (wanted : Namespaces) (flaw : UriFlaw) : Prop :=
  kind.isNamespaced = true ∧ ∃ only, wanted.single? = some only ∧
    Uri.parse (ResourcePath.ofKind kind (some only)) = .error flaw

/-- A listing is what the server answers to its request, without what is not wanted. -/
theorem list_of_lists {inNamespace : Option String}
    (hlists : client.Lists transport kind inNamespace objects)
    (hpath : ResourcePath.ofKind kind wanted.single? = ResourcePath.ofKind kind inNamespace)
    {target : Uri} (hparse : Uri.parse (ResourcePath.ofKind kind inNamespace) = .ok target) :
    client.list transport kind wanted = .ok (objects.filter fun object =>
      !kind.isNamespaced || wanted.admits object.metadata.inNamespace) := by
  have hrequest : client.request readMethod (ResourcePath.ofKind kind inNamespace) none = .ok
      { method := readMethod
        address := client.address.below target
        headers := client.headers
        body := none } := by
    rw [request, hparse]
  have hasked := hrequest
  rw [← hpath] at hasked
  exact bind_eq_ok_iff.2 ⟨_, hasked, bind_eq_ok_iff.2 ⟨objects, hlists _ hrequest, rfl⟩⟩

/-- There is no request for a name that cannot be written, and so nothing that a carrier could make
a difference to. -/
theorem list_of_unwritable {flaw : UriFlaw} (h : Unwritable kind wanted flaw)
    (carrier : Transport) : client.list carrier kind wanted =
      .error (.request ("failed to build request: " ++ flaw.message)) := by
  obtain ⟨-, only, hsingle, hparse⟩ := h
  have hrequest : client.listRequest kind wanted =
      .error (.request ("failed to build request: " ++ flaw.message)) := by
    rw [listRequest, hsingle, request, hparse]
  rw [list, hrequest]
  rfl

/-- All objects of a kind can be asked for. -/
theorem parse_ofKind_none (kind : ResourceKind) :
    ∃ target, Uri.parse (ResourcePath.ofKind kind none) = .ok target := by
  refine ⟨_, ResourcePath.parse_ofKind (fun name hname => nomatch hname) ?_⟩
  cases kind <;> decide +kernel

/-- What listing the namespaces that a text names comes to, of all the objects of a kind that are
stored. -/
structure ListsAsStored (client : ApiClient) (transport : Transport) (kind : ResourceKind)
    (stored : List ApiObject) (raw : Option String) : Prop where
  /-- Objects outside of namespaces are all listed, whatever is named. -/
  whole : kind.isNamespaced = false → client.list transport kind (.parse raw) = .ok stored
  /-- Of all others those are listed whose namespace is named, in the order in which they are
  stored, unless the only name cannot be written in a path. -/
  picked : kind.isNamespaced = true → (∀ flaw, ¬ Unwritable kind (.parse raw) flaw) →
    client.list transport kind (.parse raw) =
      .ok (stored.filter fun object => Namespaces.Names raw object.metadata.inNamespace)
  /-- In that case the listing fails before anything is sent, whatever would carry it. -/
  refused : ∀ flaw, Unwritable kind (.parse raw) flaw → ∀ carrier,
    client.list carrier kind (.parse raw) =
      .error (.request ("failed to build request: " ++ flaw.message))
  /-- A name can be written if it holds nothing but characters of paths and the path is not too
  long. -/
  writable : ∀ only, (Namespaces.parse raw).single? = some only →
    (∀ c ∈ only.toList, Uri.isPathChar c = true) →
    (ResourcePath.ofKind kind (some only)).utf8ByteSize ≤ Uri.maxBytes →
    ∀ flaw, ¬ Unwritable kind (.parse raw) flaw

/-- Listing the namespaces that a text names comes to that wherever the API server lists what is
stored, and in the namespace that is asked for directly, if there is one, what is stored of it. -/
theorem listsAsStored_of_lists (hall : client.Lists transport kind none stored)
    (hone : ∀ only, kind.isNamespaced = true → (Namespaces.parse raw).single? = some only →
      client.Lists transport kind (some only)
        (stored.filter fun object => object.metadata.inNamespace = some only)) :
    client.ListsAsStored transport kind stored raw where
  whole := by
    intro hkind
    obtain ⟨target, hparse⟩ := parse_ofKind_none kind
    have hpath := ResourcePath.ofKind_of_clusterScoped hkind (Namespaces.parse raw).single?
    rw [list_of_lists hall hpath hparse, hkind]
    simp
  picked := by
    intro hkind hwritable
    cases hsingle : (Namespaces.parse raw).single? with
    | some only =>
      -- what is listed at the path of the namespace is picked out once more, and all of it stays
      cases hparse : Uri.parse (ResourcePath.ofKind kind (some only)) with
      | error flaw => exact absurd ⟨hkind, only, hsingle, hparse⟩ (hwritable flaw)
      | ok target =>
        rw [list_of_lists (hone only hkind hsingle) (by rw [hsingle]) hparse, List.filter_filter,
          hkind]
        refine congrArg Except.ok (List.filter_congr fun object _ => ?_)
        rw [Bool.eq_iff_iff]
        simp [Namespaces.admits_parse_iff, Namespaces.names_of_single? hsingle]
    | none =>
      -- everything is asked for, and picked from
      obtain ⟨target, hparse⟩ := parse_ofKind_none kind
      rw [list_of_lists hall (by rw [hsingle]) hparse, hkind]
      refine congrArg Except.ok (List.filter_congr fun object _ => ?_)
      rw [Bool.eq_iff_iff]
      simp [Namespaces.admits_parse_iff]
  refused := fun _ hunwritable => list_of_unwritable hunwritable
  writable := by
    rintro only hsingle hchars hsize flaw ⟨-, other, hother, hflaw⟩
    rw [hsingle, Option.some.injEq] at hother
    subst hother
    have hname : ∀ name ∈ some only, ∀ c ∈ name.toList, Uri.isPathChar c = true := by
      rintro name ⟨rfl⟩
      exact hchars
    rw [ResourcePath.parse_ofKind hname hsize] at hflaw
    cases hflaw

/-- What a reply holds is what its text is read and decoded as. -/
theorem value_of_read {α : Type} {decode : Decoder α} {reply : ApiReply} {value : Json} {result : α}
    (hstatus : reply.isError = false) (hread : Json.read reply.body.toList = .ok (value, []))
    (hdecode : decode value.merged = .ok result) : reply.value decode = .ok result := by
  rw [ApiReply.value, hstatus, Decoder.ofText, hread]
  simp only [hdecode]
  rfl

/-- There is one request for the objects of a kind, so what its reply holds is what is listed. -/
theorem lists_of_reply {inNamespace : Option String} {sent : ApiRequest} {reply : ApiReply}
    (hrequest : client.request readMethod (ResourcePath.ofKind kind inNamespace) none = .ok sent)
    (hreply : transport.send sent = .ok reply)
    (hvalue : reply.value (itemsOf ApiObject.decode) = .ok objects) :
    client.Lists transport kind inNamespace objects := by
  intro other hother
  rw [hrequest, Except.ok.injEq] at hother
  rw [← hother, Transport.fetch, hreply]
  exact hvalue

/-- A pod of a namespace. -/
def podIn (ns : String) : ApiObject :=
  { typeFields := []
    metadata := { Metadata.empty with inNamespace := some ns }
    content := [("metadata", .obj [("namespace", .str ns)])] }

/-- A client of the server at `kube`. -/
def kubeClient : ApiClient :=
  { address := { scheme := some "http", authority := "kube", writtenPath := "/", query := none }
    headers := [] }

/-- The reply that holds a pod of the namespace `a`, and perhaps more behind it. -/
def podsReply (more : String) : ApiReply :=
  let first := "\x7b\"metadata\":\x7b\"namespace\":\"a\"\x7d\x7d"
  { status := 200, body := "\x7b\"items\":[" ++ first ++ more ++ "]\x7d" }

/-- A server with such a pod in each of the namespaces `a` and `b`, which lists the first of them on
its own, too. -/
def podServer : Transport :=
  let second := ",\x7b\"metadata\":\x7b\"namespace\":\"b\"\x7d\x7d"
  { send := fun request =>
      if request.path = "/api/v1/pods" then .ok (podsReply second)
      else if request.path = "/api/v1/namespaces/a/pods" then .ok (podsReply "")
      else .ok { status := 404, body := "" }
    exec := fun _ => .error (.plain .notFound "exec") }

/-- The pods of the namespace `a`, however it is named. -/
theorem listsAsStored_podServer :
    kubeClient.Lists podServer .pod none [podIn "a", podIn "b"] ∧
      kubeClient.Lists podServer .pod (some "a") [podIn "a"] ∧
      (Namespaces.parse (some ",a,")).single? = some "a" ∧
      kubeClient.ListsAsStored podServer .pod [podIn "a", podIn "b"] (some ",a,") := by
  let podJson : String → Json := fun ns => .obj [("metadata", .obj [("namespace", .str ns)])]
  have hreadAll :
      Json.read (podsReply ",\x7b\"metadata\":\x7b\"namespace\":\"b\"\x7d\x7d").body.toList =
        .ok (.obj [("items", .arr [podJson "a", podJson "b"])], []) := by
    cbv
  have hreadOne : Json.read (podsReply "").body.toList =
      .ok (.obj [("items", .arr [podJson "a"])], []) := by
    cbv
  have hall : kubeClient.Lists podServer .pod none [podIn "a", podIn "b"] :=
    lists_of_reply rfl rfl (value_of_read rfl hreadAll rfl)
  have hone : kubeClient.Lists podServer .pod (some "a") [podIn "a"] :=
    lists_of_reply rfl rfl (value_of_read rfl hreadOne rfl)
  have hsingle : (Namespaces.parse (some ",a,")).single? = some "a" := by decide +kernel
  refine ⟨hall, hone, hsingle, listsAsStored_of_lists hall ?_⟩
  intro only _ honly
  rw [hsingle, Option.some.injEq] at honly
  subst honly
  exact hone

/-- It is not the case that every text comes to the objects whose namespace it names: a single name
that cannot be written in a path is refused, though the server lists what is stored. -/
theorem not_picked_of_blank :
    ¬ ∀ (client : ApiClient) (transport : Transport) (kind : ResourceKind)
        (stored : List ApiObject) (raw : Option String), kind.isNamespaced = true →
      client.Lists transport kind none stored →
      (∀ only, client.Lists transport kind (some only)
        (stored.filter fun object => object.metadata.inNamespace = some only)) →
      client.list transport kind (.parse raw) =
        .ok (stored.filter fun object =>
          Namespaces.Names raw object.metadata.inNamespace) := by
  intro h
  let emptyServer : Transport :=
    { send := fun _ => .ok { status := 200, body := "\x7b\"items\":[]\x7d" }
      exec := fun _ => .error (.plain .notFound "exec") }
  -- nothing is stored, and that is what the server lists at every path
  have hread : Json.read "\x7b\"items\":[]\x7d".toList = .ok (.obj [("items", .arr [])], []) := by
    cbv
  have hempty : ∀ sent, emptyServer.fetch sent (itemsOf ApiObject.decode) = .ok [] := fun _ =>
    value_of_read rfl hread rfl
  have hlisted := h kubeClient emptyServer .pod [] (some "team a") rfl (fun sent _ => hempty sent)
    fun only sent _ => hempty sent
  have hunwritable : Unwritable .pod (.parse (some "team a")) .character :=
    ⟨rfl, "team a", by decide +kernel, by decide +kernel⟩
  have hrefused : kubeClient.list emptyServer .pod (.parse (some "team a")) =
      .error (.request ("failed to build request: " ++ UriFlaw.message .character)) :=
    list_of_unwritable hunwritable emptyServer
  rw [hrefused] at hlisted
  cases hlisted

end ApiClient

end FleetDashboard
