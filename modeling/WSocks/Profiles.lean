import WSocks.Strings
import WSocks.Buffers

/-!
# Profiles

A profile keeps its attributes in the preferences, under keys that begin with its
name. The name is escaped so that different profiles should have different keys, but
two spaces look like an underscore then.
-/

namespace WSocks.Profiles
open WSocks.Strings WSocks.Buffers

/-! ### Preferences -/

/-- A value of the preferences. -/
inductive Value
  | string (text : String)
  | int (n : Int32)
  | boolean (b : Bool)
  deriving DecidableEq

/-- `SharedPreferences`. -/
def SharedPreferences := String → Option Value

namespace SharedPreferences
variable (pref : SharedPreferences) (key : String)

/-- No preferences yet. -/
def empty : SharedPreferences := fun _ => none

/-- The getters fail on a value of another type. -/
def getString (default : String) : Except Failure String :=
  match pref key with
  | none => .ok default
  | some (.string text) => .ok text
  | some _ => .error .classCast
def getInt (default : Int32) : Except Failure Int32 :=
  match pref key with
  | none => .ok default
  | some (.int n) => .ok n
  | some _ => .error .classCast
def getBoolean (default : Bool) : Except Failure Bool :=
  match pref key with
  | none => .ok default
  | some (.boolean b) => .ok b
  | some _ => .error .classCast

/-- `edit().put…(key, value).commit()` and `edit().remove(key).commit()`. -/
def put (value : Value) : SharedPreferences := Function.update pref key (some value)
def remove : SharedPreferences := Function.update pref key none

variable {pref key} {other : String} {value : Value}

@[simp] theorem put_same : pref.put key value key = some value := Function.update_self ..
@[simp] theorem put_other (different : other ≠ key) : pref.put key value other = pref other :=
  Function.update_of_ne different ..
@[simp] theorem remove_same : pref.remove key key = none := Function.update_self ..
@[simp] theorem remove_other (different : other ≠ key) : pref.remove key other = pref other :=
  Function.update_of_ne different ..

end SharedPreferences

def PREF_PROFILE : String := "profile"
def PREF_LAST_PROFILE : String := "last_profile"
def ROUTE_ALL : String := "all"
def ROUTE_CHN : String := "chn"

/-! ### The attributes of a profile -/

structure Profile where
  name : String
  deriving DecidableEq

/-- `prefPrefix`. -/
def prefPrefix (name : String) : String := replace ' ' "_" (replace '_' "__" name)

namespace Profile
variable (profile : Profile) (pref : SharedPreferences)

def key (k : String) : String := prefPrefix profile.name ++ k

def getServer : Except Failure String := pref.getString (profile.key "server") "127.0.0.1"
def setServer (server : String) : SharedPreferences := pref.put (profile.key "server") (.string server)
def getPort : Except Failure Int32 := pref.getInt (profile.key "port") 1080
def setPort (port : Int32) : SharedPreferences := pref.put (profile.key "port") (.int port)
def getUsername : Except Failure String := pref.getString (profile.key "username") ""
def setUsername (username : String) : SharedPreferences := pref.put (profile.key "username") (.string username)
def getPassword : Except Failure String := pref.getString (profile.key "password") ""
def setPassword (password : String) : SharedPreferences := pref.put (profile.key "password") (.string password)
def getDoZip : Except Failure Bool := pref.getBoolean (profile.key "zip") false
def setDoZip (doZip : Bool) : SharedPreferences := pref.put (profile.key "zip") (.boolean doZip)
def getRoute : Except Failure String := pref.getString (profile.key "route") ROUTE_ALL
def getOffset : Except Failure Int32 := pref.getInt (profile.key "offset") 0
def setOffset (offset : Int32) : SharedPreferences := pref.put (profile.key "offset") (.int offset)
def setRoute (route : String) : SharedPreferences := pref.put (profile.key "route") (.string route)
def getDns : Except Failure String := pref.getString (profile.key "dns") "127.0.0.1"
def getDnsPort : Except Failure Int32 := pref.getInt (profile.key "dns_port") 5553
def getPerApp : Except Failure Bool := pref.getBoolean (profile.key "perapp") false
def setPerApp (is : Bool) : SharedPreferences := pref.put (profile.key "perapp") (.boolean is)
def getBypassApp : Except Failure Bool := pref.getBoolean (profile.key "appbypass") false
def setBypassApp (is : Bool) : SharedPreferences := pref.put (profile.key "appbypass") (.boolean is)
def getAppList : Except Failure String := pref.getString (profile.key "applist") ""
def setAppList (list : String) : SharedPreferences := pref.put (profile.key "applist") (.string list)
def getAutoConnect : Except Failure Bool := pref.getBoolean (profile.key "auto") false
def setAutoConnect (a : Bool) : SharedPreferences := pref.put (profile.key "auto") (.boolean a)

/-- The attributes that `delete` removes. -/
def deleted : List String :=
  ["server","port","userpw","username","password","route","dns","dns_port","perapp","appbypass","applist","ipv6","udp",
    "udpgw","auto"]

def delete : SharedPreferences := deleted.foldl (fun pref k => pref.remove (profile.key k)) pref

end Profile

/-- A call of a setter. -/
inductive Setter
  | server (server : String)
  | port (port : Int32)
  | username (username : String)
  | password (password : String)
  | doZip (doZip : Bool)
  | offset (offset : Int32)
  | route (route : String)
  | perApp (is : Bool)
  | bypassApp (is : Bool)
  | appList (list : String)
  | autoConnect (a : Bool)

def Setter.call (profile : Profile) (pref : SharedPreferences) : Setter → SharedPreferences
  | .server text => profile.setServer pref text
  | .port n => profile.setPort pref n
  | .username text => profile.setUsername pref text
  | .password text => profile.setPassword pref text
  | .doZip b => profile.setDoZip pref b
  | .offset n => profile.setOffset pref n
  | .route text => profile.setRoute pref text
  | .perApp b => profile.setPerApp pref b
  | .bypassApp b => profile.setBypassApp pref b
  | .appList text => profile.setAppList pref text
  | .autoConnect b => profile.setAutoConnect pref b

/-- A getter. -/
inductive Getter
  | server
  | port
  | username
  | password
  | doZip
  | route
  | offset
  | dns
  | dnsPort
  | perApp
  | bypassApp
  | appList
  | autoConnect
  deriving DecidableEq

def Getter.call (profile : Profile) (pref : SharedPreferences) : Getter → Except Failure Value
  | .server => (profile.getServer pref).map Value.string
  | .port => (profile.getPort pref).map Value.int
  | .username => (profile.getUsername pref).map Value.string
  | .password => (profile.getPassword pref).map Value.string
  | .doZip => (profile.getDoZip pref).map Value.boolean
  | .route => (profile.getRoute pref).map Value.string
  | .offset => (profile.getOffset pref).map Value.int
  | .dns => (profile.getDns pref).map Value.string
  | .dnsPort => (profile.getDnsPort pref).map Value.int
  | .perApp => (profile.getPerApp pref).map Value.boolean
  | .bypassApp => (profile.getBypassApp pref).map Value.boolean
  | .appList => (profile.getAppList pref).map Value.string
  | .autoConnect => (profile.getAutoConnect pref).map Value.boolean

/-- The attribute that a setter writes, and its value. -/
def Setter.attribute : Setter → String
  | .server _ => "server"
  | .port _ => "port"
  | .username _ => "username"
  | .password _ => "password"
  | .doZip _ => "zip"
  | .offset _ => "offset"
  | .route _ => "route"
  | .perApp _ => "perapp"
  | .bypassApp _ => "appbypass"
  | .appList _ => "applist"
  | .autoConnect _ => "auto"

def Setter.value : Setter → Value
  | .server text | .username text | .password text | .route text | .appList text => .string text
  | .port n | .offset n => .int n
  | .doZip b | .perApp b | .bypassApp b | .autoConnect b => .boolean b

/-- The attribute that a getter reads. -/
def Getter.attribute : Getter → String
  | .server => "server"
  | .port => "port"
  | .username => "username"
  | .password => "password"
  | .doZip => "zip"
  | .route => "route"
  | .offset => "offset"
  | .dns => "dns"
  | .dnsPort => "dns_port"
  | .perApp => "perapp"
  | .bypassApp => "appbypass"
  | .appList => "applist"
  | .autoConnect => "auto"

/-- A setter changes one key. -/
theorem Setter.call_eq (setter : Setter) (profile : Profile) (pref : SharedPreferences) :
    setter.call profile pref = pref.put (profile.key setter.attribute) setter.value := by
  cases setter <;> rfl

/-- A getter reads one key. -/
theorem Getter.call_congr {getter : Getter} {profile : Profile} {pref pref' : SharedPreferences}
    (same : pref' (profile.key getter.attribute) = pref (profile.key getter.attribute)) :
    getter.call profile pref' = getter.call profile pref := by
  cases getter <;>
    (unfold Getter.attribute at same
     simp only [Getter.call,Profile.getServer,Profile.getPort,Profile.getUsername,Profile.getPassword,Profile.getDoZip,
       Profile.getRoute,Profile.getOffset,Profile.getDns,Profile.getDnsPort,Profile.getPerApp,Profile.getBypassApp,
       Profile.getAppList,Profile.getAutoConnect,SharedPreferences.getString,SharedPreferences.getInt,
       SharedPreferences.getBoolean,same])

/-- Deleting a profile changes only keys of its attributes. -/
theorem delete_other {profile : Profile} {pref : SharedPreferences} {key : String}
    (other : ∀ k ∈ Profile.deleted, key ≠ profile.key k) : profile.delete pref key = pref key := by
  unfold Profile.delete
  generalize Profile.deleted = keys at other
  induction keys generalizing pref with
  | nil => rfl
  | cons k rest ih =>
    rw [List.foldl_cons,ih (fun k' member => other k' (List.mem_cons_of_mem _ member))]
    exact SharedPreferences.remove_other (other k List.mem_cons_self)

/-- The listed attributes are gone then. -/
theorem delete_same {profile : Profile} {pref : SharedPreferences} {k : String} (member : k ∈ Profile.deleted) :
    profile.delete pref (profile.key k) = none := by
  have kept : ∀ (keys : List String) (pref : SharedPreferences), pref (profile.key k) = none →
      keys.foldl (fun pref k => pref.remove (profile.key k)) pref (profile.key k) = none := by
    intro keys
    induction keys with
    | nil => exact fun _ absent => absent
    | cons first rest ih =>
      intro pref absent
      refine ih _ ?_
      show pref.remove (profile.key first) (profile.key k) = none
      by_cases same : profile.key k = profile.key first
      · rw [same,SharedPreferences.remove_same]
      · rw [SharedPreferences.remove_other same,absent]
  obtain ⟨front,back,split⟩ := List.append_of_mem member
  rw [Profile.delete,split,List.foldl_append,List.foldl_cons]
  exact kept back _ SharedPreferences.remove_same

end WSocks.Profiles
