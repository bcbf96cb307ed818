import ElasticEndpoint.Cluster.Form

/-!
The schema of the cluster: the forms of its nodes, its services and its endpoints, with the fields in
the order in which they are brought into their forms.
-/

namespace ElasticEndpoint.Cluster.Schema

open Form (optional required)

def texts : Form := .table .text

def optionalTexts (names : List String) : List (String × Bool × Form) := names.map fun name => optional name .text

def requiredTexts (names : List String) : List (String × Bool × Form) := names.map fun name => required name .text

def managedFields : Form := .object [
  optional "apiVersion" .text, optional "fieldsType" .text, optional "fieldsV1" .anything,
  optional "manager" .text, optional "operation" .text, optional "subresource" .text, optional "time" .time]

def ownerReference : Form := .object [
  required "apiVersion" .text, optional "blockOwnerDeletion" .truth, optional "controller" .truth,
  required "kind" .text, required "name" .text, required "uid" .text]

def metadata : Form := .object [
  optional "annotations" texts, optional "creationTimestamp" .time,
  optional "deletionGracePeriodSeconds" .whole, optional "deletionTimestamp" .time,
  optional "finalizers" (.list .text), optional "generateName" .text, optional "generation" .whole,
  optional "labels" texts, optional "managedFields" (.list managedFields), optional "name" .text,
  optional "namespace" .text, optional "ownerReferences" (.list ownerReference),
  optional "resourceVersion" .text, optional "selfLink" .text, optional "uid" .text]

def reference : Form := .object <| optionalTexts
  ["apiVersion", "fieldPath", "kind", "name", "namespace", "resourceVersion", "uid"]

/-! Services -/

def servicePort : Form := .object [
  optional "appProtocol" .text, optional "name" .text, optional "nodePort" .whole, required "port" .whole,
  optional "protocol" .text, optional "targetPort" .anything]

/-- How clients stay with one server. -/
def affinity : Form := .object [optional "clientIP" (.object [optional "timeoutSeconds" .whole])]

def serviceSpec : Form := .object [
  optional "allocateLoadBalancerNodePorts" .truth, optional "clusterIP" .text,
  optional "clusterIPs" (.list .text), optional "externalIPs" (.list .text), optional "externalName" .text,
  optional "externalTrafficPolicy" .text, optional "healthCheckNodePort" .whole,
  optional "internalTrafficPolicy" .text, optional "ipFamilies" (.list .text), optional "ipFamilyPolicy" .text,
  optional "loadBalancerClass" .text, optional "loadBalancerIP" .text,
  optional "loadBalancerSourceRanges" (.list .text), optional "ports" (.list servicePort),
  optional "publishNotReadyAddresses" .truth, optional "selector" texts, optional "sessionAffinity" .text,
  optional "sessionAffinityConfig" affinity, optional "trafficDistribution" .text, optional "type" .text]

def condition : Form := .object [
  required "lastTransitionTime" .time, required "message" .text, optional "observedGeneration" .whole,
  required "reason" .text, required "status" .text, required "type" .text]

def ingressPort : Form := .object [optional "error" .text, required "port" .whole, required "protocol" .text]

def ingress : Form := .object [
  optional "hostname" .text, optional "ip" .text, optional "ipMode" .text, optional "ports" (.list ingressPort)]

def serviceStatus : Form := .object [
  optional "conditions" (.list condition),
  optional "loadBalancer" (.object [optional "ingress" (.list ingress)])]

def service : Form := .object [
  optional "apiVersion" .text, optional "kind" .text, optional "metadata" metadata,
  optional "spec" serviceSpec, optional "status" serviceStatus]

/-! Endpoints -/

def endpointAddress : Form := .object [
  optional "hostname" .text, required "ip" .text, optional "nodeName" .text, optional "targetRef" reference]

def endpointPort : Form := .object [
  optional "appProtocol" .text, optional "name" .text, required "port" .whole, optional "protocol" .text]

def subset : Form := .object [
  optional "addresses" (.list endpointAddress), optional "notReadyAddresses" (.list endpointAddress),
  optional "ports" (.list endpointPort)]

def endpoints : Form := .object [
  optional "apiVersion" .text, optional "kind" .text, optional "metadata" metadata,
  optional "subsets" (.list subset)]

/-! Nodes -/

def configSource : Form := .object [optional "configMap" <| .object [
  required "kubeletConfigKey" .text, required "name" .text, required "namespace" .text,
  optional "resourceVersion" .text, optional "uid" .text]]

/-- A mark that keeps work off a node. -/
def taint : Form := .object [
  required "effect" .text, required "key" .text, optional "timeAdded" .time, optional "value" .text]

def nodeSpec : Form := .object [
  optional "configSource" configSource, optional "externalID" .text, optional "podCIDR" .text,
  optional "podCIDRs" (.list .text), optional "providerID" .text, optional "taints" (.list taint),
  optional "unschedulable" .truth]

def nodeAddress : Form := .object [required "address" .text, required "type" .text]

def nodeCondition : Form := .object [
  optional "lastHeartbeatTime" .time, optional "lastTransitionTime" .time, optional "message" .text,
  optional "reason" .text, required "status" .text, required "type" .text]

def nodeConfig : Form := .object [
  optional "active" configSource, optional "assigned" configSource, optional "error" .text,
  optional "lastKnownGood" configSource]

def daemonEndpoints : Form := .object [optional "kubeletEndpoint" (.object [required "Port" .whole])]

def image : Form := .object [optional "names" (.list .text), optional "sizeBytes" .whole]

def nodeInfo : Form := .object <| requiredTexts
    ["architecture", "bootID", "containerRuntimeVersion", "kernelVersion", "kubeProxyVersion",
      "kubeletVersion", "machineID", "operatingSystem", "osImage"] ++
  [optional "swap" (.object [optional "capacity" .whole]), required "systemUUID" .text]

def runtimeHandler : Form := .object [
  optional "features" (.object [optional "recursiveReadOnlyMounts" .truth, optional "userNamespaces" .truth]),
  optional "name" .text]

def volume : Form := .object [required "devicePath" .text, required "name" .text]

def nodeStatus : Form := .object [
  optional "addresses" (.list nodeAddress), optional "allocatable" texts, optional "capacity" texts,
  optional "conditions" (.list nodeCondition), optional "config" nodeConfig,
  optional "daemonEndpoints" daemonEndpoints, optional "declaredFeatures" (.list .text),
  optional "features" (.object [optional "supplementalGroupsPolicy" .truth]),
  optional "images" (.list image), optional "nodeInfo" nodeInfo, optional "phase" .text,
  optional "runtimeHandlers" (.list runtimeHandler), optional "volumesAttached" (.list volume),
  optional "volumesInUse" (.list .text)]

def node : Form := .object [
  optional "apiVersion" .text, optional "kind" .text, optional "metadata" metadata, optional "spec" nodeSpec,
  optional "status" nodeStatus]

end ElasticEndpoint.Cluster.Schema
