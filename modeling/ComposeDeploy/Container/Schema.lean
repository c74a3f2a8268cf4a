/-
The schema of container configurations.

One record per kind of setting, each field with its shape, in the order in
which a configuration is written. Everything that reads or writes a
configuration follows these tables.
-/

import ComposeDeploy.Container.Shape

namespace ComposeDeploy.Schema

/-- Signed 64-bit integers. -/
def int64 : Shape := .whole (-0x8000000000000000) 0x7FFFFFFFFFFFFFFF

/-- Unsigned 16-bit integers. -/
def word16 : Shape := .whole 0 0xFFFF

/-- Unsigned 64-bit integers. -/
def word64 : Shape := .whole 0 0xFFFFFFFFFFFFFFFF

/-- How a container's health is checked. -/
def healthcheck : Fields :=
  .ofList
    [("Test", .list .text), ("Interval", int64), ("Timeout", int64), ("Retries", int64),
      ("StartPeriod", int64), ("StartInterval", int64)]

/-- The relative weight of one block device. -/
def weightedDevice : Fields :=
  .ofList
    [("Path", .text), ("Weight", word64)]

/-- A rate limit on one block device. -/
def throttledDevice : Fields :=
  .ofList
    [("Path", .text), ("Rate", int64)]

/-- A host device inside a container. -/
def deviceMapping : Fields :=
  .ofList
    [("PathOnHost", .text), ("PathInContainer", .text), ("CgroupPermissions", .text)]

/-- Devices asked of a driver. -/
def deviceRequest : Fields :=
  .ofList
    [("Driver", .text), ("Count", int64), ("DeviceIDs", .list .text),
      ("Capabilities", .list (.list .text)), ("Options", .dict .text)]

/-- A limit on one resource of a process. -/
def ulimit : Fields :=
  .ofList
    [("Name", .text), ("Soft", int64), ("Hard", int64)]

/-- Where a container's output goes. -/
def logConfig : Fields :=
  .ofList
    [("Type", .text), ("Config", .dict .text)]

/-- A host address bound to a container port. -/
def portBinding : Fields :=
  .ofList
    [("HostIp", .text), ("HostPort", .text)]

/-- When a container is started again. -/
def restartPolicy : Fields :=
  .ofList
    [("Name", .choice ["", "no", "always", "unless-stopped", "on-failure"]),
      ("MaximumRetryCount", int64)]

/-- Options of a bind mount. -/
def bindOptions : Fields :=
  .ofList
    [("Propagation", .choice ["", "private", "rprivate", "shared", "rshared", "slave", "rslave"]),
      ("NonRecursive", .flag), ("CreateMountpoint", .flag), ("ReadOnlyNonRecursive", .flag),
      ("ReadOnlyForceRecursive", .flag)]

/-- The driver of a volume. -/
def volumeDriver : Fields :=
  .ofList
    [("Name", .text), ("Options", .dict .text)]

/-- Options of a volume mount. -/
def volumeOptions : Fields :=
  .ofList
    [("NoCopy", .flag), ("Labels", .dict .text), ("DriverConfig", .record volumeDriver),
      ("Subpath", .text)]

/-- Options of an image mount. -/
def imageOptions : Fields :=
  .ofList
    [("Subpath", .text)]

/-- Options of a temporary file system. -/
def tmpfsOptions : Fields :=
  .ofList
    [("SizeBytes", int64), ("Mode", int64), ("Options", .list (.list .text))]

/-- A mounted file system. -/
def mount : Fields :=
  .ofList
    [("Target", .text), ("Source", .text),
      ("Type", .choice ["", "bind", "volume", "image", "tmpfs", "npipe", "cluster"]),
      ("ReadOnly", .flag), ("Consistency", .text), ("BindOptions", .record bindOptions),
      ("VolumeOptions", .record volumeOptions), ("ImageOptions", .record imageOptions),
      ("TmpfsOptions", .record tmpfsOptions)]

/-- What a container takes from its host. -/
def hostConfig : Fields :=
  .ofList
    [("CpuShares", int64), ("Memory", int64), ("CgroupParent", .text), ("BlkioWeight", word16),
      ("BlkioWeightDevice", .list (.record weightedDevice)),
      ("BlkioDeviceReadBps", .list (.record throttledDevice)),
      ("BlkioDeviceWriteBps", .list (.record throttledDevice)),
      ("BlkioDeviceReadIOps", .list (.record throttledDevice)),
      ("BlkioDeviceWriteIOps", .list (.record throttledDevice)), ("CpuPeriod", int64),
      ("CpuQuota", int64), ("CpuRealtimePeriod", int64), ("CpuRealtimeRuntime", int64),
      ("CpusetCpus", .text), ("CpusetMems", .text), ("Devices", .list (.record deviceMapping)),
      ("DeviceCgroupRules", .list .text), ("DeviceRequests", .list (.record deviceRequest)),
      ("KernelMemoryTCP", int64), ("MemoryReservation", int64), ("MemorySwap", int64),
      ("MemorySwappiness", int64), ("NanoCpus", int64), ("OomKillDisable", .flag),
      ("Init", .flag), ("PidsLimit", int64), ("Ulimits", .list (.record ulimit)),
      ("CpuCount", int64), ("CpuPercent", int64), ("IOMaximumIOps", int64),
      ("IOMaximumBandwidth", int64), ("Binds", .list .text), ("ContainerIDFile", .text),
      ("LogConfig", .record logConfig), ("NetworkMode", .text),
      ("PortBindings", .dict (.nullable (.list (.record portBinding)))),
      ("RestartPolicy", .record restartPolicy), ("AutoRemove", .flag), ("VolumeDriver", .text),
      ("VolumesFrom", .list .text), ("Mounts", .list (.record mount)),
      ("ConsoleSize", .list word64), ("Annotations", .dict .text), ("CapAdd", .list .text),
      ("CapDrop", .list .text), ("CgroupnsMode", .choice ["", "private", "host"]),
      ("Dns", .list .text), ("DnsOptions", .list .text), ("DnsSearch", .list .text),
      ("ExtraHosts", .list .text), ("GroupAdd", .list .text), ("IpcMode", .text),
      ("Cgroup", .text), ("Links", .list .text), ("OomScoreAdj", int64), ("PidMode", .text),
      ("Privileged", .flag), ("PublishAllPorts", .flag), ("ReadonlyRootfs", .flag),
      ("SecurityOpt", .list .text), ("StorageOpt", .dict .text), ("Tmpfs", .dict .text),
      ("UTSMode", .text), ("UsernsMode", .text), ("ShmSize", int64), ("Sysctls", .dict .text),
      ("Runtime", .text), ("Isolation", .choice ["default", "process", "hyperv", ""]),
      ("MaskedPaths", .list .text), ("ReadonlyPaths", .list .text)]

/-- Addresses asked for on one network. -/
def endpointAddresses : Fields :=
  .ofList
    [("IPv4Address", .text), ("IPv6Address", .text), ("LinkLocalIPs", .list .text)]

/-- How a container joins one network. -/
def endpointSettings : Fields :=
  .ofList
    [("IPAMConfig", .record endpointAddresses), ("Links", .list .text), ("MacAddress", .text),
      ("Aliases", .list .text), ("DriverOpts", .dict .text), ("GwPriority", int64),
      ("NetworkID", .text), ("EndpointID", .text), ("Gateway", .text), ("IPAddress", .text),
      ("IPPrefixLen", int64), ("IPv6Gateway", .text), ("GlobalIPv6Address", .text),
      ("GlobalIPv6PrefixLen", int64), ("DNSNames", .list .text)]

/-- The networks that a container joins. -/
def networkingConfig : Fields :=
  .ofList
    [("EndpointsConfig", .dict (.record endpointSettings))]

/-- The configuration of a container. -/
def configuration : Fields :=
  .ofList
    [("Hostname", .text), ("Domainname", .text), ("User", .text), ("AttachStdin", .flag),
      ("AttachStdout", .flag), ("AttachStderr", .flag), ("ExposedPorts", .dict .nothing),
      ("Tty", .flag), ("OpenStdin", .flag), ("StdinOnce", .flag), ("Env", .list .text),
      ("Cmd", .list .text), ("Healthcheck", .record healthcheck), ("ArgsEscaped", .flag),
      ("Image", .text), ("Volumes", .dict .nothing), ("WorkingDir", .text),
      ("Entrypoint", .list .text), ("NetworkDisabled", .flag), ("MacAddress", .text),
      ("OnBuild", .list .text), ("Labels", .dict .text), ("StopSignal", .text),
      ("StopTimeout", int64), ("Shell", .list .text), ("HostConfig", .record hostConfig),
      ("NetworkingConfig", .record networkingConfig)]

end ComposeDeploy.Schema
