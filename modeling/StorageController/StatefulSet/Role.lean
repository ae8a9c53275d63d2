import StorageController.Topology

namespace StorageController

/-- A process of the storage pod. All but its domain goes into the container as it is. -/
structure Role where
  name : Json
  domain : Domain
  command : List Json
  /-- The port of a process that is reached from outside the pod; null for any other. -/
  port : Json := .null
  portName : Json := .null
  mounts : Bool := true
deriving DecidableEq

namespace Role

def accountPort : Int := 6202

def containerPort : Int := 6201

def objectPort : Int := 6200

def rsyncPort : Int := 873

def memcachedPort : Int := 11211

def daemon (domain : Domain) (process : String) (port : Option Int) : Role where
  name := .str (domain.name ++ "-" ++ process)
  domain
  command :=
    [.str ("/usr/bin/swift-" ++ domain.name ++ "-" ++ process),
     .str ("/etc/swift/" ++ domain.name ++ "-server.conf"), "-v"]
  port := (port.map Json.int).getD .null
  portName := (port.map fun _ => Json.str domain.name).getD .null

/-- The processes that run once, before all others. -/
def initial : List Role :=
  [{ name := "swift-init"
     domain := .account
     command :=
      ["/bin/sh", "-c",
       "cp -t /etc/swift/ /var/lib/config-data/default/* /var/lib/config-data/rings/*"] }]

def services : List Role :=
  [daemon .account "server" (some accountPort),
   daemon .account "replicator" none,
   daemon .account "auditor" none,
   daemon .account "reaper" none,
   daemon .container "server" (some containerPort),
   daemon .container "replicator" none,
   daemon .container "auditor" none,
   daemon .container "updater" none,
   daemon .object "server" (some objectPort),
   daemon .object "replicator" none,
   daemon .object "auditor" none,
   daemon .object "updater" none,
   { name := "object-expirer"
     domain := .proxy
     command := ["/usr/bin/swift-object-expirer", "/etc/swift/object-expirer.conf", "-v"] },
   { name := "rsync"
     domain := .object
     command :=
      ["/usr/bin/rsync", "--daemon", "--no-detach", "--config=/etc/swift/rsyncd.conf",
       "--log-file=/dev/stdout"]
     port := .int rsyncPort
     portName := "rsync" },
   { name := "memcached"
     domain := .memcached
     command := ["/usr/bin/memcached", "-p", "11211", "-u", "memcached"]
     port := .int memcachedPort
     portName := "memcached"
     mounts := false }]

end Role

end StorageController
