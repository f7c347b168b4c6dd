import VelaExternal.MtpResponder.UsbDeviceProperties
import VelaExternal.MtpResponder.DeadEndpoint
import VelaExternal.MtpResponder.StaleMessage
import VelaExternal.MtpResponder.EndpointRecovery
import VelaExternal.MtpResponder.ReadRecoveryProperties
import VelaExternal.MtpResponder.AlreadyOpen
import VelaExternal.MtpResponder.MessageQueueProperties
import VelaExternal.MtpResponder.Vconf
import VelaExternal.MtpResponder.VconfInt
import VelaExternal.Ethercat.CriticalSection
import VelaExternal.Ethercat.KthreadLifetime
import VelaExternal.Ethercat.WakeUpAll
import VelaExternal.Ethercat.WakeUpInterruptible
import VelaExternal.Ethercat.WakeUpAllWork
import VelaExternal.Ethercat.WaitEvent
import VelaExternal.Ethercat.EtherDeviceProperties
import VelaExternal.Ethercat.CdevProperties
import VelaExternal.Ethercat.SkbuffProperties
import VelaExternal.Open1722.OptionTable
import VelaExternal.Benchtests.Timespec
import VelaExternal.Benchtests.Strcasestr
import VelaExternal.Ethercat.ListLoops
import VelaExternal.Lcm.Publish
import VelaExternal.Lcm.ClassProperties
import VelaExternal.Benchtests.TimespecPortable
