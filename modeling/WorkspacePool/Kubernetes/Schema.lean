import WorkspacePool.Kubernetes.Shape

/-!
The shape of a pod, part by part, in version 1.32 of the cluster's interface.
-/

namespace WorkspacePool.Kubernetes.Schema

open Json (Document)
open Kubernetes.Field (optional always texts flags int32s int64s textLists textMaps times names)

def zero : Document := Document.ofNat 0

def emptyObject : Document := .object []

def emptyList : Document := .array []

/-! ### Parts that several others use -/

def labelSelector : Shape := .record
  [optional (.list (.record (names ["key", "operator"] ++ textLists ["values"])))
      "matchExpressions",
    optional (.mapOf .string) "matchLabels"]

/-- A reference by name, within the same namespace. -/
def localReference : Shape := .record (names ["name"])

def resourceRequirements : Shape := .record
  ([optional (.list (.record (names ["name"] ++ texts ["request"]))) "claims"] ++
    textMaps ["limits", "requests"])

/-! ### Metadata -/

def metadata : Shape := .record
  (textMaps ["annotations", "labels"] ++ times ["creationTimestamp", "deletionTimestamp"] ++
    int64s ["deletionGracePeriodSeconds", "generation"] ++ textLists ["finalizers"] ++
    texts ["generateName", "name", "namespace", "resourceVersion", "selfLink", "uid"] ++
    [optional (.list (.record
        (texts ["apiVersion", "fieldsType", "manager", "operation", "subresource"] ++
          [optional .any "fieldsV1"] ++ times ["time"]))) "managedFields",
      optional (.list (.record
        (names ["apiVersion", "kind", "name", "uid"] ++
          flags ["blockOwnerDeletion", "controller"]))) "ownerReferences"])

/-! ### Scheduling -/

def nodeSelectorTerm : Shape :=
  let requirement : Shape := .record (names ["key", "operator"] ++ textLists ["values"])
  .record
    [optional (.list requirement) "matchExpressions", optional (.list requirement) "matchFields"]

def nodeAffinity : Shape := .record
  [optional (.list (.record
      [always nodeSelectorTerm emptyObject "preference", always .int32 zero "weight"]))
      "preferredDuringSchedulingIgnoredDuringExecution",
    optional (.record [always (.list nodeSelectorTerm) emptyList "nodeSelectorTerms"])
      "requiredDuringSchedulingIgnoredDuringExecution"]

def podAffinityTerm : Shape := .record
  ([optional labelSelector "labelSelector", optional labelSelector "namespaceSelector"] ++
    textLists ["matchLabelKeys", "mismatchLabelKeys", "namespaces"] ++ names ["topologyKey"])

def podAffinity : Shape := .record
  [optional (.list (.record
      [always podAffinityTerm (.object [("topologyKey", .string "")]) "podAffinityTerm",
        always .int32 zero "weight"])) "preferredDuringSchedulingIgnoredDuringExecution",
    optional (.list podAffinityTerm) "requiredDuringSchedulingIgnoredDuringExecution"]

def affinity : Shape := .record
  [optional nodeAffinity "nodeAffinity", optional podAffinity "podAffinity",
    optional podAffinity "podAntiAffinity"]

def toleration : Shape := .record
  (texts ["effect", "key", "operator", "value"] ++ int64s ["tolerationSeconds"])

def topologySpreadConstraint : Shape := .record
  ([optional labelSelector "labelSelector", always .int32 zero "maxSkew"] ++
    textLists ["matchLabelKeys"] ++ int32s ["minDomains"] ++
    texts ["nodeAffinityPolicy", "nodeTaintsPolicy"] ++ names ["topologyKey", "whenUnsatisfiable"])

/-! ### Security -/

def seLinuxOptions : Shape := .record (texts ["level", "role", "type", "user"])

/-- A profile by its type, and by its place when the type says so. -/
def profile : Shape := .record (texts ["localhostProfile"] ++ names ["type"])

def windowsOptions : Shape := .record
  (texts ["gmsaCredentialSpec", "gmsaCredentialSpecName", "runAsUserName"] ++ flags ["hostProcess"])

def securityContext : Shape := .record
  (flags ["allowPrivilegeEscalation", "privileged", "readOnlyRootFilesystem", "runAsNonRoot"] ++
    int64s ["runAsGroup", "runAsUser"] ++ texts ["procMount"] ++
    [optional profile "appArmorProfile", optional profile "seccompProfile",
      optional (.record (textLists ["add", "drop"])) "capabilities",
      optional seLinuxOptions "seLinuxOptions", optional windowsOptions "windowsOptions"])

def podSecurityContext : Shape := .record
  (flags ["runAsNonRoot"] ++ int64s ["fsGroup", "runAsGroup", "runAsUser"] ++
    texts ["fsGroupChangePolicy", "seLinuxChangePolicy", "supplementalGroupsPolicy"] ++
    [optional profile "appArmorProfile", optional profile "seccompProfile",
      optional seLinuxOptions "seLinuxOptions", optional windowsOptions "windowsOptions",
      optional (.list .int64) "supplementalGroups",
      optional (.list (.record (names ["name", "value"]))) "sysctls"])

/-! ### Containers -/

/-- A key of a configuration or secret. -/
def keySelector : Shape := .record (names ["key", "name"] ++ flags ["optional"])

def fieldSelector : Shape := .record (texts ["apiVersion"] ++ names ["fieldPath"])

def resourceFieldSelector : Shape := .record
  (texts ["containerName", "divisor"] ++ names ["resource"])

def envVar : Shape := .record
  (names ["name"] ++ texts ["value"] ++
    [optional (.record
      [optional keySelector "configMapKeyRef", optional fieldSelector "fieldRef",
        optional resourceFieldSelector "resourceFieldRef", optional keySelector "secretKeyRef"])
      "valueFrom"])

def envFromSource : Shape :=
  let source : Shape := .record (names ["name"] ++ flags ["optional"])
  .record ([optional source "configMapRef", optional source "secretRef"] ++ texts ["prefix"])

def containerPort : Shape := .record
  ([always .int32 zero "containerPort"] ++ int32s ["hostPort"] ++
      texts ["hostIP", "name", "protocol"])

def execAction : Shape := .record (textLists ["command"])

def httpGetAction : Shape := .record
  (texts ["host", "path", "scheme"] ++
    [optional (.list (.record (names ["name", "value"]))) "httpHeaders",
      always .intOrString zero "port"])

def tcpSocketAction : Shape := .record (texts ["host"] ++ [always .intOrString zero "port"])

def probe : Shape := .record
  (int32s ["failureThreshold", "initialDelaySeconds", "periodSeconds", "successThreshold",
      "timeoutSeconds"] ++ int64s ["terminationGracePeriodSeconds"] ++
    [optional execAction "exec",
      optional (.record ([always .int32 zero "port"] ++ texts ["service"])) "grpc",
      optional httpGetAction "httpGet", optional tcpSocketAction "tcpSocket"])

def lifecycleHandler : Shape := .record
  [optional execAction "exec", optional httpGetAction "httpGet",
    optional (.record [always .int64 zero "seconds"]) "sleep", optional tcpSocketAction "tcpSocket"]

def volumeMount : Shape := .record
  (names ["mountPath", "name"] ++ flags ["readOnly"] ++
    texts ["mountPropagation", "recursiveReadOnly", "subPath", "subPathExpr"])

/-- What containers of all kinds have. -/
def containerFields : List Field :=
  textLists ["args", "command"] ++ names ["name"] ++
    texts ["image", "imagePullPolicy", "restartPolicy", "terminationMessagePath",
      "terminationMessagePolicy", "workingDir"] ++ flags ["stdin", "stdinOnce", "tty"] ++
    [optional (.list envVar) "env", optional (.list envFromSource) "envFrom",
      optional (.record
        [optional lifecycleHandler "postStart", optional lifecycleHandler "preStop"]) "lifecycle",
      optional probe "livenessProbe", optional (.list containerPort) "ports",
      optional probe "readinessProbe",
      optional (.list (.record (names ["resourceName", "restartPolicy"]))) "resizePolicy",
      optional resourceRequirements "resources", optional securityContext "securityContext",
      optional probe "startupProbe",
      optional (.list (.record (names ["devicePath", "name"]))) "volumeDevices",
      optional (.list volumeMount) "volumeMounts"]

def container : Shape := .record containerFields

def ephemeralContainer : Shape := .record (containerFields ++ texts ["targetContainerName"])

/-! ### Volumes -/

def keyToPath : Shape := .record (names ["key", "path"] ++ int32s ["mode"])

def downwardItems : Field := optional (.list (.record
  ([optional fieldSelector "fieldRef", optional resourceFieldSelector "resourceFieldRef"] ++
    int32s ["mode"] ++ names ["path"]))) "items"

def keyItems : Field := optional (.list keyToPath) "items"

def claimSpec : Shape := .record
  (textLists ["accessModes"] ++
    texts ["storageClassName", "volumeAttributesClassName", "volumeMode", "volumeName"] ++
    [optional (.record (texts ["apiGroup"] ++ names ["kind", "name"])) "dataSource",
      optional (.record (texts ["apiGroup", "namespace"] ++ names ["kind", "name"]))
        "dataSourceRef",
      optional (.record (textMaps ["limits", "requests"])) "resources",
      optional labelSelector "selector"])

def projection : Shape := .record
  [optional (.record
      ([optional labelSelector "labelSelector"] ++ texts ["name", "signerName"] ++
        flags ["optional"] ++ names ["path"])) "clusterTrustBundle",
    optional (.record ([keyItems] ++ names ["name"] ++ flags ["optional"])) "configMap",
    optional (.record [downwardItems]) "downwardAPI",
    optional (.record ([keyItems] ++ names ["name"] ++ flags ["optional"])) "secret",
    optional (.record
      (texts ["audience"] ++ int64s ["expirationSeconds"] ++ names ["path"])) "serviceAccountToken"]

def volume : Shape :=
  let secretRef := optional localReference "secretRef"
  let fsType := optional .string "fsType"
  let readOnly := optional .bool "readOnly"
  .record
    (names ["name"] ++
      [optional (.record ([fsType, readOnly] ++ int32s ["partition"] ++ names ["volumeID"]))
          "awsElasticBlockStore",
        optional (.record ([fsType, readOnly] ++ texts ["cachingMode", "kind"] ++
          names ["diskName", "diskURI"])) "azureDisk",
        optional (.record ([readOnly] ++ names ["secretName", "shareName"])) "azureFile",
        optional (.record ([always (.list .string) emptyList "monitors", readOnly, secretRef] ++
          texts ["path", "secretFile", "user"])) "cephfs",
        optional (.record ([fsType, readOnly, secretRef] ++ names ["volumeID"])) "cinder",
        optional (.record (int32s ["defaultMode"] ++ [keyItems] ++ names ["name"] ++
          flags ["optional"])) "configMap",
        optional (.record (names ["driver"] ++ [fsType, readOnly] ++
          [optional localReference "nodePublishSecretRef"] ++ textMaps ["volumeAttributes"])) "csi",
        optional (.record (int32s ["defaultMode"] ++ [downwardItems])) "downwardAPI",
        optional (.record (texts ["medium", "sizeLimit"])) "emptyDir",
        optional (.record [optional (.record
          [optional metadata "metadata", always claimSpec emptyObject "spec"])
          "volumeClaimTemplate"]) "ephemeral",
        optional (.record ([fsType, readOnly] ++ int32s ["lun"] ++
          textLists ["targetWWNs", "wwids"])) "fc",
        optional (.record (names ["driver"] ++ [fsType, readOnly, secretRef] ++
          textMaps ["options"])) "flexVolume",
        optional (.record (texts ["datasetName", "datasetUUID"])) "flocker",
        optional (.record ([fsType, readOnly] ++ int32s ["partition"] ++ names ["pdName"]))
          "gcePersistentDisk",
        optional (.record (texts ["directory", "revision"] ++ names ["repository"])) "gitRepo",
        optional (.record (names ["endpoints", "path"] ++ [readOnly])) "glusterfs",
        optional (.record (names ["path"] ++ texts ["type"])) "hostPath",
        optional (.record (texts ["pullPolicy", "reference"])) "image",
        optional (.record (flags ["chapAuthDiscovery", "chapAuthSession"] ++
          [fsType, readOnly, secretRef, always .int32 zero "lun"] ++
          texts ["initiatorName", "iscsiInterface"] ++ names ["iqn", "targetPortal"] ++
          textLists ["portals"])) "iscsi",
        optional (.record (names ["path", "server"] ++ [readOnly])) "nfs",
        optional (.record (names ["claimName"] ++ [readOnly])) "persistentVolumeClaim",
        optional (.record ([fsType] ++ names ["pdID"])) "photonPersistentDisk",
        optional (.record ([fsType, readOnly] ++ names ["volumeID"])) "portworxVolume",
        optional (.record (int32s ["defaultMode"] ++ [optional (.list projection) "sources"]))
          "projected",
        optional (.record (texts ["group", "tenant", "user"] ++ [readOnly] ++
          names ["registry", "volume"])) "quobyte",
        optional (.record ([fsType, readOnly, secretRef,
          always (.list .string) emptyList "monitors"] ++ names ["image"] ++
          texts ["keyring", "pool", "user"])) "rbd",
        optional (.record ([fsType, readOnly,
          always localReference (.object [("name", .string "")]) "secretRef"] ++
          names ["gateway", "system"] ++ flags ["sslEnabled"] ++
          texts ["protectionDomain", "storageMode", "storagePool", "volumeName"])) "scaleIO",
        optional (.record (int32s ["defaultMode"] ++ [keyItems] ++ flags ["optional"] ++
          texts ["secretName"])) "secret",
        optional (.record ([fsType, readOnly, secretRef] ++
          texts ["volumeName", "volumeNamespace"])) "storageos",
        optional (.record ([fsType] ++ texts ["storagePolicyID", "storagePolicyName"] ++
          names ["volumePath"])) "vsphereVolume"])

/-! ### The specification -/

def spec : Shape := .record
  (int64s ["activeDeadlineSeconds", "terminationGracePeriodSeconds"] ++ int32s ["priority"] ++
    flags ["automountServiceAccountToken", "enableServiceLinks", "hostIPC", "hostNetwork",
      "hostPID", "hostUsers", "setHostnameAsFQDN", "shareProcessNamespace"] ++
    texts ["dnsPolicy", "hostname", "nodeName", "preemptionPolicy", "priorityClassName",
      "restartPolicy", "runtimeClassName", "schedulerName", "serviceAccount", "serviceAccountName",
      "subdomain"] ++ textMaps ["nodeSelector", "overhead"] ++
    [always (.list container) emptyList "containers", optional affinity "affinity",
      optional (.record (textLists ["nameservers", "searches"] ++
        [optional (.list (.record (texts ["name", "value"]))) "options"])) "dnsConfig",
      optional (.list ephemeralContainer) "ephemeralContainers",
      optional (.list (.record (textLists ["hostnames"] ++ names ["ip"]))) "hostAliases",
      optional (.list localReference) "imagePullSecrets",
      optional (.list container) "initContainers", optional localReference "os",
      optional (.list (.record (names ["conditionType"]))) "readinessGates",
      optional (.list (.record (names ["name"] ++
        texts ["resourceClaimName", "resourceClaimTemplateName"]))) "resourceClaims",
      optional resourceRequirements "resources", optional (.list localReference) "schedulingGates",
      optional podSecurityContext "securityContext", optional (.list toleration) "tolerations",
      optional (.list topologySpreadConstraint) "topologySpreadConstraints",
      optional (.list volume) "volumes"])

/-! ### The status -/

def containerState : Shape := .record
  [optional (.record (times ["startedAt"])) "running",
    optional (.record (texts ["containerID", "message", "reason"] ++
      [always .int32 zero "exitCode"] ++ int32s ["signal"] ++ times ["finishedAt", "startedAt"]))
      "terminated",
    optional (.record (texts ["message", "reason"])) "waiting"]

def containerStatus : Shape := .record
  (textMaps ["allocatedResources"] ++ texts ["containerID"] ++ names ["image", "imageID", "name"] ++
    flags ["started"] ++
    [optional (.list (.record (names ["name"] ++
        [optional (.list (.record (texts ["health"] ++ names ["resourceID"]))) "resources"])))
        "allocatedResourcesStatus",
      optional containerState "lastState", optional containerState "state",
      always .bool (.bool false) "ready", always .int32 zero "restartCount",
      optional resourceRequirements "resources",
      optional (.record [optional (.record
        [always .int64 zero "gid", always .int64 zero "uid",
          optional (.list .int64) "supplementalGroups"]) "linux"]) "user",
      optional (.list (.record (names ["mountPath", "name"] ++ flags ["readOnly"] ++
        texts ["recursiveReadOnly"]))) "volumeMounts"])

def condition : Shape := .record
  (times ["lastProbeTime", "lastTransitionTime"] ++ texts ["message", "reason"] ++
    names ["status", "type"])

def status : Shape := .record
  (texts ["hostIP", "message", "nominatedNodeName", "phase", "podIP", "qosClass", "reason",
      "resize"] ++ times ["startTime"] ++
    [optional (.list condition) "conditions", optional (.list containerStatus) "containerStatuses",
      optional (.list containerStatus) "ephemeralContainerStatuses",
      optional (.list containerStatus) "initContainerStatuses",
      optional (.list (.record (names ["ip"]))) "hostIPs",
      optional (.list (.record (names ["ip"]))) "podIPs",
      optional (.list (.record (names ["name"] ++ texts ["resourceClaimName"])))
        "resourceClaimStatuses"])

/-! ### The whole -/

/-- A text that has to be the given one. -/
def exactly (expected : String) : Shape
  | .string text => if text == expected then some (.string text) else none
  | _ => none

def pod : Shape := .record
  [always (exactly "v1") (.string "v1") "apiVersion",
    always (exactly "Pod") (.string "Pod") "kind", always metadata emptyObject "metadata",
    optional spec "spec", optional status "status"]

end WorkspacePool.Kubernetes.Schema
