import HomeAutomation.Proofs.Backend.Trace
import HomeAutomation.Proofs.Text.Percent

/-!
# What a request is for

Of a request the method and the address tell what is asked and for which automation. On the platform
an address is a path of segments (`Platform.Intent.segments?`), and since an id in percent encoding
holds no slash, the path falls into the same segments again (`Platform.Intent.splitOn_path`). The
fourth of them is the id, if there is one (`idAt?`); the method and the last one say what is asked
(`Platform.Intent.ofLine?`). On the hub all configurations have one root, and what stands behind it
is the id.

The id may be any code points. One with a surrogate has no encoding, so there is no address and
nothing is asked.
-/

namespace HomeAutomation

open Text

namespace Platform

theorem requests_request (platform : Platform) (method path : String) (body : Json)
    (w : Circumstances) :
    w.requests (platform.request method path body) =
      if platform.url = "" then [] else [platform.requestOf ⟨method, path, body⟩] := by
  rw [request_eq_tried, Circumstances.requests, run_tried]
  split
  · rfl
  · rfl

theorem requests_perform_request (platform : Platform) (method path : String) (body : Json)
    (w : Circumstances) :
    w.requests (platform.request method path body).perform =
      if platform.url = "" then [] else [platform.requestOf ⟨method, path, body⟩] := by
  rw [Dialogue.perform, w.requests_map, requests_request]

/-- What the platform is asked, and for which automation. -/
inductive Intent where
  | list
  | create
  | update (id : WideText)
  | delete (id : WideText)
  | enable (id : WideText)
  | disable (id : WideText)

namespace Intent

def id? : Intent → Option WideText
  | list | create => none
  | update id | delete id | enable id | disable id => some id

def method : Intent → String
  | list => "GET"
  | create | enable _ | disable _ => "POST"
  | update _ => "PUT"
  | delete _ => "DELETE"

/-- The segments of the path, the empty one in front of the first slash included. -/
def segments? (intent : Intent) : Option (List (List Char)) :=
  let root := ["".toList, "api".toList, "automations".toList]
  let below (id : WideText) (action : List (List Char)) : Option (List (List Char)) :=
    (Percent.encode? id).map fun segment => root ++ segment.toList :: action
  match intent with
  | list | create => some root
  | update id | delete id => below id []
  | enable id => below id ["enable".toList]
  | disable id => below id ["disable".toList]

def path? (intent : Intent) : Option String :=
  intent.segments?.map fun segments => String.ofList (['/'].intercalate segments)

/-- The attempt on the platform that the intent is. New contents go along if it takes any. -/
def attempt (intent : Intent) (platform : Platform) (contents : Json) : Attempt Unit :=
  match intent with
  | list => platform.list.perform
  | create => platform.create contents
  | update id => platform.update id contents
  | delete id => platform.delete id
  | enable id => platform.setEnabled id true
  | disable id => platform.setEnabled id false

def asked (intent : Intent) (platform : Platform) (contents : Json) (w : Circumstances) :
    List Request :=
  w.requests (intent.attempt platform contents)

theorem path?_eq_none_iff {intent : Intent} :
    intent.path? = none ↔ ∃ id, intent.id? = some id ∧ id.HasSurrogate := by
  rw [path?, Option.map_eq_none_iff]
  cases intent with
  | list => simp [segments?, id?]
  | create => simp [segments?, id?]
  | update id => simp [segments?, id?, Percent.encode?_eq_none_iff]
  | delete id => simp [segments?, id?, Percent.encode?_eq_none_iff]
  | enable id => simp [segments?, id?, Percent.encode?_eq_none_iff]
  | disable id => simp [segments?, id?, Percent.encode?_eq_none_iff]

theorem path?_root : path? list = some automationsPath ∧ path? create = some automationsPath := by
  decide

theorem path?_one (s : String) :
    path? (update s) = some (automationPath s) ∧ path? (delete s) = some (automationPath s) := by
  have hpath : path? (update s) = some (automationPath s) := by
    simp only [path?, segments?, Percent.encode?_ofString, Option.map_some]
    refine congrArg some (String.toList_inj.mp ?_)
    simp [automationPath, automationsPath, List.intercalate]
  exact ⟨hpath, hpath⟩

theorem path?_switch (s : String) :
    path? (enable s) = some (automationPath s ++ "/enable") ∧
      path? (disable s) = some (automationPath s ++ "/disable") := by
  constructor
  · simp only [path?, segments?, Percent.encode?_ofString, Option.map_some]
    refine congrArg some (String.toList_inj.mp ?_)
    simp [automationPath, automationsPath, List.intercalate]
  · simp only [path?, segments?, Percent.encode?_ofString, Option.map_some]
    refine congrArg some (String.toList_inj.mp ?_)
    simp [automationPath, automationsPath, List.intercalate]

/-- With an id that has a surrogate the attempt ends before anything is asked. -/
theorem attempt_of_hasSurrogate {intent : Intent} {id : WideText} (hid : intent.id? = some id)
    (h : id.HasSurrogate) (platform : Platform) (contents : Json) :
    intent.attempt platform contents = .done (.error (.foreign (.unencodable id))) := by
  have hnone := WideText.text?_eq_none_iff.mpr h
  cases intent with
  | list => cases hid
  | create => cases hid
  | update other | delete other | enable other | disable other =>
      obtain rfl := Option.some.inj hid
      exact Dialogue.addressed_of_none hnone _

theorem exists_asked_eq {intent : Intent} {path : String} (h : intent.path? = some path)
    (platform : Platform) (contents : Json) (w : Circumstances) :
    ∃ body, intent.asked platform contents w =
      if platform.url = "" then [] else [platform.requestOf ⟨intent.method, path, body⟩] := by
  have hid {id : WideText} (hsome : intent.id? = some id) : ∃ s : String, id = s := by
    have hnot : ¬ id.HasSurrogate := by
      intro hsurrogate
      rw [path?_eq_none_iff.mpr ⟨id, hsome, hsurrogate⟩] at h
      cases h
    exact WideText.exists_ofString_of_not_hasSurrogate hnot
  cases intent with
  | list =>
      obtain rfl := Option.some.inj (path?_root.1.symm.trans h)
      refine ⟨.null, ?_⟩
      rw [asked, attempt, Dialogue.perform, w.requests_map, Platform.list, w.requests_map,
        requests_request, method]
  | create =>
      obtain rfl := Option.some.inj (path?_root.2.symm.trans h)
      refine ⟨contents, ?_⟩
      rw [asked, attempt, Platform.create, requests_perform_request, method]
  | update id =>
      obtain ⟨s, rfl⟩ := hid rfl
      obtain rfl := Option.some.inj ((path?_one s).1.symm.trans h)
      refine ⟨contents, ?_⟩
      rw [asked, attempt, Platform.update, Dialogue.addressed_ofString, requests_perform_request,
        method]
  | delete id =>
      obtain ⟨s, rfl⟩ := hid rfl
      obtain rfl := Option.some.inj ((path?_one s).2.symm.trans h)
      refine ⟨.null, ?_⟩
      rw [asked, attempt, Platform.delete, Dialogue.addressed_ofString, requests_perform_request,
        method]
  | enable id =>
      obtain ⟨s, rfl⟩ := hid rfl
      obtain rfl := Option.some.inj ((path?_switch s).1.symm.trans h)
      refine ⟨.null, ?_⟩
      rw [asked, attempt, setEnabled, Dialogue.addressed_ofString, requests_perform_request,
        method, if_pos rfl]
  | disable id =>
      obtain ⟨s, rfl⟩ := hid rfl
      obtain rfl := Option.some.inj ((path?_switch s).2.symm.trans h)
      refine ⟨.null, ?_⟩
      rw [asked, attempt, setEnabled, Dialogue.addressed_ofString, requests_perform_request,
        method, if_neg Bool.false_ne_true]

theorem exists_path_of_asked {intent : Intent} {platform : Platform} {contents : Json}
    {w : Circumstances} {r : Request} (hr : r ∈ intent.asked platform contents w) :
    ∃ path, intent.path? = some path ∧ r.method = intent.method ∧ r.url = platform.url ++ path := by
  cases hpath : intent.path? with
  | none =>
      obtain ⟨id, hid, hsurrogate⟩ := path?_eq_none_iff.mp hpath
      rw [asked, attempt_of_hasSurrogate hid hsurrogate] at hr
      cases hr
  | some path =>
      obtain ⟨body, hasked⟩ := exists_asked_eq hpath platform contents w
      rw [hasked] at hr
      split at hr
      · cases hr
      · rw [List.mem_singleton.mp hr]
        exact ⟨path, rfl, rfl, rfl⟩

theorem slash_not_mem_segments {intent : Intent} {segments : List (List Char)}
    (h : intent.segments? = some segments) : ∀ segment ∈ segments, '/' ∉ segment := by
  have hbelow {id : WideText} {root action : List (List Char)} (hroot : ∀ s ∈ root, '/' ∉ s)
      (haction : ∀ s ∈ action, '/' ∉ s)
      (hsegments : (Percent.encode? id).map (fun segment => root ++ segment.toList :: action) =
        some segments) : ∀ s ∈ segments, '/' ∉ s := by
    obtain ⟨segment, hsegment, rfl⟩ := Option.map_eq_some_iff.mp hsegments
    obtain ⟨t, -, rfl⟩ := Percent.encode?_eq_some_iff.mp hsegment
    exact List.forall_mem_append.mpr ⟨hroot,
      List.forall_mem_cons.mpr ⟨Percent.not_mem_encode (by decide) t, haction⟩⟩
  cases intent with
  | list | create =>
      obtain rfl := Option.some.inj h
      decide
  | update id | delete id => exact hbelow (by decide) (by decide) h
  | enable id => exact hbelow (by decide) (by decide) h
  | disable id => exact hbelow (by decide) (by decide) h

theorem segments?_ne_nil (intent : Intent) : intent.segments? ≠ some [] := by
  cases intent <;> simp [segments?]

theorem splitOn_path {intent : Intent} {path : String} (h : intent.path? = some path) :
    intent.segments? = some (path.toList.splitOn '/') := by
  obtain ⟨segments, hsegments, rfl⟩ := Option.map_eq_some_iff.mp h
  have hne : segments ≠ [] := by
    rintro rfl
    exact intent.segments?_ne_nil hsegments
  rw [String.toList_ofList, List.splitOn_intercalate '/' (slash_not_mem_segments hsegments) hne,
    hsegments]

def idAt? (path : String) : Option WideText :=
  (path.toList.splitOn '/')[3]?.map fun segment => Percent.decode (String.ofList segment)

/-- What is asked with a method at a path. -/
def ofLine? (method path : String) : Option Intent :=
  match path.toList.splitOn '/', method with
  | [_, _, _], "GET" => some list
  | [_, _, _], "POST" => some create
  | [_, _, _, id], "PUT" => some (update (Percent.decode (String.ofList id)))
  | [_, _, _, id], "DELETE" => some (delete (Percent.decode (String.ofList id)))
  | [_, _, _, id, last], "POST" =>
    let id := Percent.decode (String.ofList id)
    some (if last = "enable".toList then enable id else disable id)
  | _, _ => none

theorem ofLine?_path {intent : Intent} {path : String} (h : intent.path? = some path) :
    ofLine? intent.method path = some intent ∧ idAt? path = intent.id? := by
  have hsplit := splitOn_path h
  unfold ofLine? idAt?
  cases intent with
  | list | create =>
      rw [← Option.some.inj hsplit]
      exact ⟨rfl, rfl⟩
  | update id | delete id | enable id | disable id =>
      obtain ⟨segment, hsegment, hsegments⟩ := Option.map_eq_some_iff.mp hsplit
      obtain rfl := Percent.ofString_decode_of_encode? hsegment
      rw [← hsegments]
      simp [method, id?, String.ofList_toList]

/-- With one address of the platform, method and address of a request are those of one intent, and
the address is that of one id. -/
theorem eq_of_asked {url : String} {timeout timeout' : Number} {intent intent' : Intent}
    {contents contents' : Json} {w v : Circumstances} {r r' : Request}
    (hr : r ∈ intent.asked ⟨url, timeout⟩ contents w)
    (hr' : r' ∈ intent'.asked ⟨url, timeout'⟩ contents' v) :
    (r.method = r'.method ∧ r.url = r'.url ↔ intent = intent') ∧
      (r.url = r'.url → intent.id? = intent'.id?) := by
  obtain ⟨path, hpath, hmethod, hurl⟩ := exists_path_of_asked hr
  obtain ⟨path', hpath', hmethod', hurl'⟩ := exists_path_of_asked hr'
  obtain ⟨hline, hid⟩ := ofLine?_path hpath
  obtain ⟨hline', hid'⟩ := ofLine?_path hpath'
  have heq : r.url = r'.url ↔ path = path' := by
    rw [hurl, hurl']
    exact String.append_right_inj url
  refine ⟨⟨?_, ?_⟩, ?_⟩
  · rintro ⟨hmethods, haddress⟩
    rw [hmethod, hmethod'] at hmethods
    rw [heq.mp haddress, hmethods, hline'] at hline
    exact (Option.some.inj hline).symm
  · rintro rfl
    obtain rfl := Option.some.inj (hpath.symm.trans hpath')
    exact ⟨hmethod.trans hmethod'.symm, heq.mpr rfl⟩
  · intro haddress
    rw [← hid, ← hid', heq.mp haddress]

end Intent

end Platform

namespace Hub

theorem requests_request (hub : Hub) {path : String} (h : rooted path = path) (method : String)
    (body : Json) (w : Circumstances) :
    w.requests (hub.request method path body) = [hub.requestOf ⟨method, path, body⟩] := by
  rw [request_eq_exchange hub h, Circumstances.requests, Dialogue.run_exchange]

/-- What the hub is asked to do with a configuration, and with which. -/
inductive ConfigIntent where
  | upsert (id : WideText)
  | delete (id : WideText)

namespace ConfigIntent

def id : ConfigIntent → WideText
  | upsert id | delete id => id

def method : ConfigIntent → String
  | upsert _ => "POST"
  | delete _ => "DELETE"

/-- The attempt on the hub that the intent is. The configuration goes along if it is written. -/
def attempt (intent : ConfigIntent) (hub : Hub) (config : Json.Fields) : Attempt Unit :=
  match intent with
  | upsert id => hub.upsert id config
  | delete id => hub.delete id

def asked (intent : ConfigIntent) (hub : Hub) (config : Json.Fields) (w : Circumstances) :
    List Request :=
  w.requests (intent.attempt hub config)

theorem configPath_injective : Function.Injective configPath := by
  intro id id' h
  exact Percent.encode_injective ((String.append_right_inj _).mp h)

theorem attempt_of_hasSurrogate {intent : ConfigIntent} (h : intent.id.HasSurrogate) (hub : Hub)
    (config : Json.Fields) :
    intent.attempt hub config = .done (.error (.foreign (.unencodable intent.id))) := by
  cases intent <;> exact Dialogue.addressed_of_none (WideText.text?_eq_none_iff.mpr h) _

theorem exists_asked_eq {intent : ConfigIntent} {s : String} (h : intent.id = s) (hub : Hub)
    (config : Json.Fields) (w : Circumstances) :
    ∃ body, intent.asked hub config w =
      [hub.requestOf ⟨intent.method, configPath s, body⟩] := by
  have hrooted := Change.rooted_configPath s
  cases intent with
  | upsert id =>
      obtain rfl : id = s := h
      refine ⟨.obj (config.insert "id" (.str s)), ?_⟩
      rw [asked, attempt, Hub.upsert, Dialogue.addressed_ofString, Dialogue.perform, w.requests_map]
      exact hub.requests_request hrooted _ _ w
  | delete id =>
      obtain rfl : id = s := h
      refine ⟨.null, ?_⟩
      rw [asked, attempt, Hub.delete, Dialogue.addressed_ofString, Dialogue.perform, w.requests_map]
      exact hub.requests_request hrooted _ _ w

theorem exists_text_of_asked {intent : ConfigIntent} {hub : Hub} {config : Json.Fields}
    {w : Circumstances} {r : Request} (hr : r ∈ intent.asked hub config w) :
    ∃ s : String, intent.id = s ∧ r.method = intent.method ∧ r.url = hub.url ++ configPath s := by
  cases htext : intent.id.text? with
  | none =>
      rw [asked, attempt_of_hasSurrogate (WideText.text?_eq_none_iff.mp htext)] at hr
      cases hr
  | some s =>
      have hid := WideText.text?_eq_some_iff.mp htext
      obtain ⟨body, hasked⟩ := exists_asked_eq hid hub config w
      rw [hasked, List.mem_singleton] at hr
      rw [hr]
      exact ⟨s, hid, rfl, rfl⟩

/-- With one address of the hub, configurations have one address exactly if they have one id, and
the method says what is done. -/
theorem eq_of_asked {url token token' : String} {timeout timeout' : Number}
    {intent intent' : ConfigIntent} {config config' : Json.Fields} {w v : Circumstances}
    {r r' : Request} (hr : r ∈ intent.asked ⟨url, token, timeout⟩ config w)
    (hr' : r' ∈ intent'.asked ⟨url, token', timeout'⟩ config' v) :
    (r.method = r'.method ∧ r.url = r'.url ↔ intent = intent') ∧
      (r.url = r'.url ↔ intent.id = intent'.id) := by
  obtain ⟨s, hid, hmethod, hurl⟩ := exists_text_of_asked hr
  obtain ⟨s', hid', hmethod', hurl'⟩ := exists_text_of_asked hr'
  have haddress : r.url = r'.url ↔ intent.id = intent'.id := by
    rw [hurl, hurl', hid, hid', WideText.ofString_inj]
    exact (String.append_right_inj url).trans configPath_injective.eq_iff
  refine ⟨?_, haddress⟩
  rw [haddress, hmethod, hmethod']
  cases intent with
  | upsert id =>
      cases intent' with
      | upsert id' => simp [method, ConfigIntent.id]
      | delete id' => simp [method]
  | delete id =>
      cases intent' with
      | upsert id' => simp [method]
      | delete id' => simp [method, ConfigIntent.id]

end ConfigIntent

end Hub

/-- An id has an encoding exactly if it has no surrogate. The encoding is read back, and it is a
segment of plain characters and escapes. With a surrogate in the id an attempt ends before anything
is asked; otherwise there is one request, if there is an address. Two requests to one platform have
the same method and address exactly if they have the same intent, and requests at one address are
for one id. The same holds for the configurations on one hub, where writing and deleting use one
address. -/
theorem requests_identify_intent :
    (∀ id : WideText, Percent.encode? id = none ↔ id.HasSurrogate) ∧
    (∀ (id : WideText) (segment : String), Percent.encode? id = some segment →
      Percent.decode segment = id ∧ Percent.IsEncoded segment.toList ∧
        ∀ c ∈ ['/', '?', '#'], c ∉ segment.toList) ∧
    (∀ (intent : Platform.Intent) (platform : Platform) (contents : Json),
      (∀ id, intent.id? = some id → id.HasSurrogate →
        intent.attempt platform contents = .done (.error (.foreign (.unencodable id)))) ∧
      ∀ w : Circumstances, (∀ id, intent.id? = some id → ¬ id.HasSurrogate) →
        (intent.asked platform contents w).length = if platform.url = "" then 0 else 1) ∧
    (∀ (url : String) (timeout timeout' : Number) (intent intent' : Platform.Intent)
        (contents contents' : Json) (w v : Circumstances),
      ∀ r ∈ intent.asked ⟨url, timeout⟩ contents w,
      ∀ r' ∈ intent'.asked ⟨url, timeout'⟩ contents' v,
        (r.method = r'.method ∧ r.url = r'.url ↔ intent = intent') ∧
          (r.url = r'.url → intent.id? = intent'.id?)) ∧
    (∀ (intent : Hub.ConfigIntent) (hub : Hub) (config : Json.Fields),
      (intent.id.HasSurrogate →
        intent.attempt hub config = .done (.error (.foreign (.unencodable intent.id)))) ∧
      ∀ w : Circumstances, ¬ intent.id.HasSurrogate →
        (intent.asked hub config w).length = 1) ∧
    ∀ (url token token' : String) (timeout timeout' : Number) (intent intent' : Hub.ConfigIntent)
        (config config' : Json.Fields) (w v : Circumstances),
      ∀ r ∈ intent.asked ⟨url, token, timeout⟩ config w,
      ∀ r' ∈ intent'.asked ⟨url, token', timeout'⟩ config' v,
        (r.method = r'.method ∧ r.url = r'.url ↔ intent = intent') ∧
          (r.url = r'.url ↔ intent.id = intent'.id) := by
  refine ⟨fun id => Percent.encode?_eq_none_iff, ?_, ?_, ?_, ?_, ?_⟩
  · intro id segment hsegment
    refine ⟨Percent.ofString_decode_of_encode? hsegment, ?_⟩
    obtain ⟨s, -, rfl⟩ := Percent.encode?_eq_some_iff.mp hsegment
    refine ⟨Percent.isEncoded_encode s, ?_⟩
    intro c hc
    simp only [List.mem_cons, List.not_mem_nil, or_false] at hc
    rcases hc with rfl | rfl | rfl
    · exact Percent.not_mem_encode (by decide) s
    · exact Percent.not_mem_encode (by decide) s
    · exact Percent.not_mem_encode (by decide) s
  · intro intent platform contents
    refine ⟨fun id hid h => Platform.Intent.attempt_of_hasSurrogate hid h platform contents, ?_⟩
    intro w hnot
    cases hpath : intent.path? with
    | none =>
        obtain ⟨id, hid, hsurrogate⟩ := Platform.Intent.path?_eq_none_iff.mp hpath
        exact absurd hsurrogate (hnot id hid)
    | some path =>
        obtain ⟨body, hasked⟩ := Platform.Intent.exists_asked_eq hpath platform contents w
        rw [hasked]
        split
        · rfl
        · rfl
  · intro url timeout timeout' intent intent' contents contents' w v r hr r' hr'
    exact Platform.Intent.eq_of_asked hr hr'
  · intro intent hub config
    refine ⟨fun h => Hub.ConfigIntent.attempt_of_hasSurrogate h hub config, ?_⟩
    intro w hnot
    obtain ⟨s, hs⟩ := WideText.exists_ofString_of_not_hasSurrogate hnot
    obtain ⟨body, hasked⟩ := Hub.ConfigIntent.exists_asked_eq hs hub config w
    rw [hasked, List.length_singleton]
  · intro url token token' timeout timeout' intent intent' config config' w v r hr r' hr'
    exact Hub.ConfigIntent.eq_of_asked hr hr'

/-- Half of a pair has no encoding. Deleting by it asks nothing, as deleting by another half
does. -/
theorem requests_miss_halves :
    let half : WideText := ⟨[.surrogate 0]⟩
    let other : WideText := ⟨[.surrogate 1]⟩
    let w : Circumstances := ⟨Unit, 0, fun _ _ => (.ok ⟨200, ""⟩, ()), ()⟩
    let platform : Platform := ⟨"https://platform.example", .int 10⟩
    let message :=
      "'utf-8' codec can't encode character '\\ud800' in position 0: surrogates not allowed"
    Percent.encode? half = none ∧ half ≠ other ∧
      (Platform.Intent.delete half).asked platform .null w = [] ∧
      (Platform.Intent.delete other).asked platform .null w = [] ∧
      w.outcome ((Platform.Intent.delete half).attempt platform .null) =
        .error (.foreign ⟨.other "UnicodeEncodeError", message⟩) := by
  intro half other w platform message
  have hhalf : half.HasSurrogate := ⟨0, List.mem_singleton_self _⟩
  have hother : other.HasSurrogate := ⟨1, List.mem_singleton_self _⟩
  have hattempt (id : WideText) (h : id.HasSurrogate) :
      (Platform.Intent.delete id).attempt platform .null =
        .done (.error (.foreign (.unencodable id))) :=
    Platform.Intent.attempt_of_hasSurrogate rfl h platform .null
  refine ⟨Percent.encode?_eq_none_iff.mpr hhalf, by decide, ?_, ?_, ?_⟩
  · rw [Platform.Intent.asked, hattempt half hhalf]
    rfl
  · rw [Platform.Intent.asked, hattempt other hother]
    rfl
  · have hmessage : half.encodingMessage = message := by
      decide +kernel
    rw [hattempt half hhalf, Circumstances.outcome, Dialogue.run_done, Fault.unencodable, hmessage]

/-- An id that looks like a switch is not taken for one, and on the hub it is written and deleted
at one address. By half of a pair nothing is asked. -/
theorem requests_identify_intent_lampEnable :
    let w : Circumstances := ⟨Unit, 0, fun _ _ => (.ok ⟨200, ""⟩, ()), ()⟩
    let platform : Platform := ⟨"https://platform.example", .int 10⟩
    let hub : Hub := ⟨"http://hub:8123", "token", .int 10⟩
    let id : WideText := "lamp/enable"
    let half : WideText := ⟨[.surrogate 0]⟩
    let update := platform.requestOf ⟨"PUT", Platform.automationPath "lamp/enable", .null⟩
    let enable := platform.requestOf ⟨"POST", Platform.automationPath "lamp" ++ "/enable", .null⟩
    let upsert := hub.requestOf
      ⟨"POST", Hub.configPath "lamp/enable", .obj [("id", .str "lamp/enable")]⟩
    let delete := hub.requestOf ⟨"DELETE", Hub.configPath "lamp/enable", .null⟩
    (Percent.encode? id = some "lamp%2Fenable" ∧ Percent.decode "lamp%2Fenable" = id) ∧
    (¬ id.HasSurrogate ∧ ((Platform.Intent.update id).asked platform .null w).length = 1 ∧
      ((Hub.ConfigIntent.upsert id).asked hub [] w).length = 1) ∧
    (half.HasSurrogate ∧
      (Platform.Intent.update half).attempt platform .null =
        .done (.error (.foreign (.unencodable half))) ∧
      (Hub.ConfigIntent.upsert half).attempt hub [] =
        .done (.error (.foreign (.unencodable half)))) ∧
    (update ∈ (Platform.Intent.update id).asked platform .null w ∧
      enable ∈ (Platform.Intent.enable "lamp").asked platform .null w ∧
      update.url ≠ enable.url) ∧
    upsert ∈ (Hub.ConfigIntent.upsert id).asked hub [] w ∧
      delete ∈ (Hub.ConfigIntent.delete id).asked hub [] w ∧
      upsert.url = delete.url := by
  intro w platform hub id half update enable upsert delete
  obtain ⟨hnone, hsegment, hasked, hplatform, hconfig, hhub⟩ := requests_identify_intent
  have hencode : Percent.encode? id = some "lamp%2Fenable" := by decide
  have hid : ¬ id.HasSurrogate := by
    rw [← hnone, hencode]
    exact Option.some_ne_none _
  have hhalf : half.HasSurrogate := ⟨0, List.mem_singleton_self _⟩
  have hupdate : update ∈ (Platform.Intent.update id).asked platform .null w :=
    List.mem_singleton_self update
  have henable : enable ∈ (Platform.Intent.enable "lamp").asked platform .null w :=
    List.mem_singleton_self enable
  have hupsert : upsert ∈ (Hub.ConfigIntent.upsert id).asked hub [] w :=
    List.mem_singleton_self upsert
  have hdelete : delete ∈ (Hub.ConfigIntent.delete id).asked hub [] w :=
    List.mem_singleton_self delete
  refine ⟨⟨hencode, (hsegment id _ hencode).1⟩, ⟨hid, ?_, ?_⟩, ⟨hhalf, ?_, ?_⟩,
    ⟨hupdate, henable, ?_⟩, hupsert, hdelete, ?_⟩
  · have hlength := (hasked (.update id) platform .null).2 w
      fun other hother => Option.some.inj hother ▸ hid
    rwa [if_neg (by decide)] at hlength
  · exact (hconfig (.upsert id) hub []).2 w hid
  · exact (hasked (.update half) platform .null).1 half rfl hhalf
  · exact (hconfig (.upsert half) hub []).1 hhalf
  · intro haddress
    have hsame := (hplatform _ _ _ _ _ _ _ w w update hupdate enable henable).2 haddress
    exact absurd hsame (by decide)
  · exact (hhub _ _ _ _ _ _ _ _ _ w w upsert hupsert delete hdelete).2.mpr rfl

end HomeAutomation
