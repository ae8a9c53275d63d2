namespace StorageController.Cluster

def apiGroup : String := "swift.openstack.org"

def apiVersion : String := "v1beta1"

def apiGroupVersion : String := "swift.openstack.org/v1beta1"

def storageKind : String := "SwiftStorage"

def storagePlural : String := "swiftstorages"

def setKind : String := "StatefulSet"

def setPlural : String := "statefulsets"

def appsGroupVersion : String := "apps/v1"

def nameLabel : String := "app.kubernetes.io/name"

def instanceLabel : String := "app.kubernetes.io/instance"

def managedByLabel : String := "app.kubernetes.io/managed-by"

def applicationName : String := "swift-storage"

def controllerName : String := "swift-operator"

def triggerKey : String := "swift.openstack.org/reconcile-trigger"

end StorageController.Cluster
