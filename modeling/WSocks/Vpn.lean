import WSocks.Profiles

/-!
# Configuring the tunnel

The intent that starts the service, and the builder that the service sets up from it.
The application must not capture its own packets: it is either disallowed, or some
other application is allowed.
-/

namespace WSocks.Vpn
open WSocks.Strings WSocks.Buffers WSocks.Profiles

/-! ### The intent -/

/-- The extras of an intent for the service; a missing one reads as null or as a default. -/
structure Intent where
  name : Option String
  server : Option String
  port : Option Int32
  username : Option String
  passwd : Option String
  doZip : Option Bool
  offset : Option Int32
  route : Option String
  dns : Option String
  dnsPort : Option Int32
  perApp : Option Bool
  appBypass : Option Bool
  appList : Option (List String)

/-- The intent that `startVpn` makes of a profile; the last two extras only go with `perApp`. -/
def startVpn (pref : SharedPreferences) (profile : Profile) : Except Failure Intent := do
  let server ← profile.getServer pref
  let port ← profile.getPort pref
  let route ← profile.getRoute pref
  let dns ← profile.getDns pref
  let dnsPort ← profile.getDnsPort pref
  let perApp ← profile.getPerApp pref
  let username ← profile.getUsername pref
  let password ← profile.getPassword pref
  let offset ← profile.getOffset pref
  let doZip ← profile.getDoZip pref
  let intent : Intent :=
    ⟨some profile.name,some server,some port,some username,some password,some doZip,some offset,some route,some dns,
      some dnsPort,some perApp,none,none⟩
  if perApp then
    let bypassApp ← profile.getBypassApp pref
    let appList ← profile.getAppList pref
    return {intent with appBypass := some bypassApp,appList := some (split '\n' appList)}
  else return intent

/-! ### The builder -/

def packageName : String := "net.typeblog.socks"

/-- What Android and the service throw. -/
inductive Thrown
  | nameNotFound
  | unsupportedOperation
  | illegalArgument
  | illegalState
  | nullPointer
  | failed
  deriving DecidableEq

/-- The device: which packages are installed, the own one among them, which arguments
    the builder takes, and the resource `simple_route`. -/
structure Android where
  installed : String → Bool
  own : installed packageName = true
  validAddress : String → Int32 → Bool
  validDnsServer : String → Bool
  validRoute : String → Int32 → Bool
  simple_route : List String

/-- `VpnService.Builder`, in which packages are either allowed or disallowed. -/
structure Builder where
  session : Option String
  mtu : Option Int32
  addresses : List (String × Int32)
  dnsServers : List String
  routes : List (String × Int32)
  allowed : List String
  disallowed : List String
  exclusive : allowed = [] ∨ disallowed = []

namespace Builder

/-- `new VpnService.Builder(this)`. -/
def new : Builder := ⟨none,none,[],[],[],[],[],.inl rfl⟩

variable (android : Android) (b : Builder)

def addAddress (address : String) (prefixLength : Int32) : Except Thrown Builder :=
  if android.validAddress address prefixLength then .ok {b with addresses := b.addresses ++ [(address,prefixLength)]}
  else .error .illegalArgument
def addDnsServer (address : String) : Except Thrown Builder :=
  if android.validDnsServer address then .ok {b with dnsServers := b.dnsServers ++ [address]}
  else .error .illegalArgument
def addRoute (address : String) (prefixLength : Int32) : Except Thrown Builder :=
  if android.validRoute address prefixLength then .ok {b with routes := b.routes ++ [(address,prefixLength)]}
  else .error .illegalArgument

/-- Packages are allowed only while none is disallowed, and the other way round. -/
def addAllowedApplication (p : String) : Except Thrown Builder :=
  if free : b.disallowed = [] then
    if android.installed p then .ok {b with allowed := b.allowed ++ [p],exclusive := .inr free}
    else .error .nameNotFound
  else .error .unsupportedOperation
def addDisallowedApplication (p : String) : Except Thrown Builder :=
  if free : b.allowed = [] then
    if android.installed p then .ok {b with disallowed := b.disallowed ++ [p],exclusive := .inl free}
    else .error .nameNotFound
  else .error .unsupportedOperation

/-- Whether the tunnel gets the packets of a package. -/
def Captures (p : String) : Prop := if b.allowed ≠ [] then p ∈ b.allowed else p ∉ b.disallowed

/-- The own packages go around the tunnel. -/
def NoLoop : Prop := packageName ∈ b.disallowed ∨ b.allowed ≠ [] ∧ packageName ∉ b.allowed

end Builder

/-! ### Configuration -/

/-- A builder call whose exceptions are swallowed. -/
def swallow (b : Builder) (called : Except Thrown Builder) : Builder :=
  match called with
  | .ok b' => b'
  | .error _ => b

/-- `toInteger()` throws on what is no number. -/
def prefixLength (text : String) : Except Thrown Int32 :=
  match toInteger? text with
  | some n => .ok n
  | none => .error .illegalArgument

/-- `Routes.addRoutes`. -/
def addRoutes (android : Android) (b : Builder) (name : Option String) : Except Thrown Builder :=
  let routes := if name = some ROUTE_CHN then android.simple_route else ["0.0.0.0/0"]
  routes.foldlM (fun b it =>
    match split '/' it with
    | [address,length] =>
      if "127".toList.isPrefixOf address.toList then .ok b
      else do b.addRoute android address (← prefixLength length)
    | _ => .ok b) b

/-- All IPv6 traffic, if it is asked for. -/
def addIpv6 (android : Android) (b : Builder) (ipv6 : Bool) : Except Thrown Builder :=
  if ipv6 then do (← b.addAddress android "fdfe:dcba:9876::1" 126).addRoute android "::" 0
  else .ok b

/-- The first part of `configure`: addresses, DNS and routes. -/
def network (android : Android) (name route : Option String) (ipv6 : Bool) : Except Thrown Builder := do
  let b := {Builder.new with mtu := some 1500,session := name}
  let b ← b.addAddress android "26.26.26.1" 24
  let b ← b.addDnsServer android "8.8.8.8"
  let b ← addIpv6 android b ipv6
  let b ← addRoutes android b route
  b.addRoute android "8.8.8.8" 32

/-- The bodies of the loops over the applications. -/
def disallow (android : Android) (b : Builder) (p : String) : Builder :=
  if p = "" then b else swallow b (b.addDisallowedApplication android (trim p))
def allow (android : Android) (b : Builder) (p : String) : Builder :=
  if p = "" ∨ trim p = packageName then b else swallow b (b.addAllowedApplication android (trim p))

/-- The second part: which applications are captured. -/
def appRouting (android : Android) (perApp bypass : Bool) (apps : List String) (b : Builder) : Builder :=
  if !perApp then swallow b (b.addDisallowedApplication android packageName)
  else if bypass then apps.foldl (disallow android) (swallow b (b.addDisallowedApplication android packageName))
  else apps.foldl (allow android) b

/-- The builder that `configure` calls `establish` on, if no exception came before. -/
def configure (android : Android) (name route : Option String) (perApp bypass : Bool) (apps : List String)
    (ipv6 : Bool) : Except Thrown Builder := do
  return appRouting android perApp bypass apps (← network android name route ipv6)

/-! ### Captured applications -/

/-- The condition on the two sets is that the own packets are not captured. -/
theorem noLoop_iff_not_captures (b : Builder) : b.NoLoop ↔ ¬ b.Captures packageName := by
  unfold Builder.NoLoop Builder.Captures
  by_cases none : b.allowed = []
  · simp [none]
  · have free : b.disallowed = [] := b.exclusive.resolve_left none
    simp [none,free]

/-- No application is allowed or disallowed yet. -/
def Builder.Bare (b : Builder) : Prop := b.allowed = [] ∧ b.disallowed = []

variable {android : Android} {b b' : Builder}

private theorem addAddress_bare {address : String} {length : Int32} (bare : b.Bare)
    (added : b.addAddress android address length = .ok b') : b'.Bare := by
  unfold Builder.addAddress at added
  split_ifs at added
  cases added
  exact bare

private theorem addDnsServer_bare {address : String} (bare : b.Bare)
    (added : b.addDnsServer android address = .ok b') : b'.Bare := by
  unfold Builder.addDnsServer at added
  split_ifs at added
  cases added
  exact bare

private theorem addRoute_bare {address : String} {length : Int32} (bare : b.Bare)
    (added : b.addRoute android address length = .ok b') : b'.Bare := by
  unfold Builder.addRoute at added
  split_ifs at added
  cases added
  exact bare

/-- A sequence of builder calls succeeds when each of them does. -/
private theorem bind_ok {α β : Type} {first : Except Thrown α} {f : α → Except Thrown β} {c : β}
    (done : first >>= f = .ok c) : ∃ a, first = .ok a ∧ f a = .ok c := by
  cases first with
  | error thrown => exact absurd done (by simp [bind,Except.bind])
  | ok a => exact ⟨a,rfl,done⟩

private theorem addRoutes_bare {name : Option String} (bare : b.Bare)
    (added : addRoutes android b name = .ok b') : b'.Bare := by
  unfold addRoutes at added
  generalize (if name = some ROUTE_CHN then android.simple_route else ["0.0.0.0/0"]) = routes at added
  induction routes generalizing b with
  | nil =>
    cases added
    exact bare
  | cons it rest ih =>
    rw [List.foldlM_cons] at added
    obtain ⟨next,one,more⟩ := bind_ok added
    refine ih ?_ more
    split at one
    · split_ifs at one
      · cases one
        exact bare
      · obtain ⟨length,-,route⟩ := bind_ok one
        exact addRoute_bare bare route
    · cases one
      exact bare

/-- The first part of `configure` allows and disallows nothing. -/
theorem network_bare {name route : Option String} {ipv6 : Bool} (built : network android name route ipv6 = .ok b) :
    b.Bare := by
  have new : {Builder.new with mtu := some 1500,session := name}.Bare := ⟨rfl,rfl⟩
  obtain ⟨b₁,address,built⟩ := bind_ok built
  obtain ⟨b₂,dns,built⟩ := bind_ok built
  obtain ⟨b₃,six,built⟩ := bind_ok built
  obtain ⟨b₄,routes,built⟩ := bind_ok built
  have bare₂ : b₂.Bare := addDnsServer_bare (addAddress_bare new address) dns
  have bare₃ : b₃.Bare := by
    unfold addIpv6 at six
    split_ifs at six
    · obtain ⟨b₅,address₆,route₆⟩ := bind_ok six
      exact addRoute_bare (addAddress_bare bare₂ address₆) route₆
    · cases six
      exact bare₂
  exact addRoute_bare (addRoutes_bare bare₃ routes) built

/-! ### The own package -/

/-- The own package can be disallowed first. -/
private theorem disallow_own (bare : b.Bare) :
    packageName ∈ (swallow b (b.addDisallowedApplication android packageName)).disallowed := by
  have free : b.allowed = [] := bare.1
  simp [Builder.addDisallowedApplication,free,android.own,swallow]

/-- Disallowing more packages keeps it disallowed. -/
private theorem disallow_more (apps : List String) (own : packageName ∈ b.disallowed) :
    packageName ∈ (apps.foldl (disallow android) b).disallowed := by
  induction apps generalizing b with
  | nil => exact own
  | cons p rest ih =>
    refine ih ?_
    unfold disallow
    by_cases empty : p = ""
    · rw [if_pos empty]
      exact own
    · rw [if_neg empty]
      unfold Builder.addDisallowedApplication
      split_ifs
      · exact List.mem_append_left _ own
      · exact own
      · exact own

/-- An entry of the list that makes a package allowed. -/
def Admits (android : Android) (p : String) : Prop :=
  p ≠ "" ∧ trim p ≠ packageName ∧ android.installed (trim p) = true

instance (android : Android) (p : String) : Decidable (Admits android p) := inferInstanceAs (Decidable (_ ∧ _ ∧ _))

private theorem allow_of_admits {p : String} (free : b.disallowed = []) (admits : Admits android p) :
    (allow android b p).allowed = b.allowed ++ [trim p] ∧ (allow android b p).disallowed = [] := by
  obtain ⟨nonempty,other,installed⟩ := admits
  unfold allow Builder.addAllowedApplication
  rw [if_neg (by simp [nonempty,other]),dif_pos free,if_pos installed]
  exact ⟨rfl,free⟩

private theorem allow_of_not_admits {p : String} (free : b.disallowed = []) (skipped : ¬ Admits android p) :
    allow android b p = b := by
  unfold allow
  by_cases named : p = "" ∨ trim p = packageName
  · rw [if_pos named]
  · have missing : ¬ android.installed (trim p) = true := by
      intro installed
      push Not at named
      exact skipped ⟨named.1,named.2,installed⟩
    unfold Builder.addAllowedApplication
    rw [if_neg named,dif_pos free,if_neg missing]
    rfl

/-- The packages of such entries are allowed, and no other. -/
theorem allowed_eq (android : Android) (apps : List String) (free : b.disallowed = []) :
    (apps.foldl (allow android) b).allowed = b.allowed ++ (apps.filter (Admits android)).map trim ∧
      (apps.foldl (allow android) b).disallowed = [] := by
  induction apps generalizing b with
  | nil => simp [free]
  | cons p rest ih =>
    rw [List.foldl_cons]
    by_cases admits : Admits android p
    · obtain ⟨added,still⟩ := allow_of_admits free admits
      obtain ⟨allowed,disallowed⟩ := ih still
      refine ⟨?_,disallowed⟩
      rw [allowed,added,List.filter_cons_of_pos (by simpa using admits)]
      simp
    · rw [allow_of_not_admits free admits,List.filter_cons_of_neg (by simpa using admits)]
      exact ih free

/-- The own packets go around the tunnel exactly when not only given applications are
    captured, or one of those given is installed and another one. -/
theorem noLoop_iff {name route : Option String} {perApp bypass : Bool} {apps : List String} {ipv6 : Bool}
    (configured : configure android name route perApp bypass apps ipv6 = .ok b) :
    b.NoLoop ↔ (perApp = true → bypass = false → ∃ p ∈ apps, Admits android p) := by
  obtain ⟨b₀,built,routed⟩ := bind_ok configured
  obtain rfl : appRouting android perApp bypass apps b₀ = b := Except.ok.inj routed
  have bare := network_bare built
  cases perApp with
  | false =>
    have safe : (appRouting android false bypass apps b₀).NoLoop := .inl (disallow_own bare)
    simp [safe]
  | true =>
    cases bypass with
    | true =>
      have safe : (appRouting android true true apps b₀).NoLoop := .inl (disallow_more apps (disallow_own bare))
      simp [safe]
    | false =>
      obtain ⟨allowed,disallowed⟩ := allowed_eq android apps bare.2
      have same : (appRouting android true false apps b₀) = apps.foldl (allow android) b₀ := rfl
      unfold Builder.NoLoop
      rw [same,allowed,disallowed,bare.1,List.nil_append]
      constructor
      · rintro (absent | ⟨nonempty,-⟩) - -
        · exact absurd absent (by simp)
        · simpa using nonempty
      · intro admitted
        obtain ⟨p,member,admits⟩ := admitted rfl rfl
        have inside : p ∈ apps.filter (Admits android) := List.mem_filter.mpr ⟨member,by simpa using admits⟩
        refine .inr ⟨List.ne_nil_of_mem (List.mem_map_of_mem inside),?_⟩
        intro own
        obtain ⟨entry,kept,same⟩ := List.mem_map.mp own
        have holds : Admits android entry := by simpa using (List.mem_filter.mp kept).2
        exact holds.2.1 same

/-- A device on which only two applications are installed. -/
def device (other : String) : Android where
  installed p := p = packageName ∨ p = other
  own := by simp
  validAddress _ _ := true
  validDnsServer _ := true
  validRoute _ _ := true
  simple_route := []

/-- One installed application is enough, even with spaces around its name. -/
theorem browser_no_loop : ∃ b, configure (device "org.browser") (some "Default") (some ROUTE_ALL) true false
    [""," org.browser "] false = .ok b ∧ b.NoLoop := by
  obtain ⟨b,configured⟩ : ∃ b, configure (device "org.browser") (some "Default") (some ROUTE_ALL) true false
    [""," org.browser "] false = .ok b := ⟨_,rfl⟩
  refine ⟨b,configured,(noLoop_iff configured).mpr ?_⟩
  intro _ _
  exact ⟨" org.browser ",by simp,by decide⟩

/-- A profile for given applications that names none gives the list with an empty text,
    and the tunnel captures its own packets. -/
theorem no_name_captured : ∃ (pref : SharedPreferences) (intent : Intent) (b : Builder),
    startVpn pref ⟨"Default"⟩ = .ok intent ∧ intent.perApp = some true ∧ intent.appList = some [""] ∧
    configure (device "org.browser") intent.name intent.route (intent.perApp.getD false) (intent.appBypass.getD false)
      (intent.appList.getD []) false = .ok b ∧ ¬ b.NoLoop ∧ b.Captures packageName := by
  refine ⟨Profile.setPerApp ⟨"Default"⟩ .empty true,_,_,rfl,rfl,rfl,rfl,?_,?_⟩
  · unfold Builder.NoLoop
    decide
  · unfold Builder.Captures
    decide

end WSocks.Vpn
