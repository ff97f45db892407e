import IarmMgrs.Lib.Transition
import IarmMgrs.Lib.Pool
import IarmMgrs.Lib.Lock
import IarmMgrs.Lib.Waiter
import IarmMgrs.Lib.Mailbox
import IarmMgrs.Lib.Heap
import IarmMgrs.Lib.CString
import IarmMgrs.Lib.Cbc
import IarmMgrs.Lib.Slots
import IarmMgrs.Lib.Sweep
import IarmMgrs.Bus
import IarmMgrs.DsMgr.EventQueue
import IarmMgrs.DsMgr.EventQueueLaws
import IarmMgrs.DsMgr.EventQueueDrain
import IarmMgrs.DsMgr.PowerEvents
import IarmMgrs.DsMgr.PowerEventsLaws
import IarmMgrs.DsMgr.PowerEventsDrain
import IarmMgrs.DsMgr.HotPlug
import IarmMgrs.DsMgr.HotPlugLaws
import IarmMgrs.DsMgr.Authentication
import IarmMgrs.DsMgr.AuthenticationLaws
import IarmMgrs.DsMgr.ProcessEvent
import IarmMgrs.DsMgr.ProcessEventLaws
import IarmMgrs.DsMgr.Resolution
import IarmMgrs.DsMgr.ResolutionLaws
import IarmMgrs.DsMgr.PortResolution
import IarmMgrs.DsMgr.PortResolutionLaws
import IarmMgrs.DsMgr.StageLaws
import IarmMgrs.DsMgr.FallBack
import IarmMgrs.DsMgr.FallBackLaws
import IarmMgrs.DsMgr.EdidChange
import IarmMgrs.DsMgr.EdidChangeLaws
import IarmMgrs.DsMgr.AvPorts
import IarmMgrs.DsMgr.AvPortsLaws
import IarmMgrs.DsMgr.PortFailure
import IarmMgrs.DsMgr.StandbyTable
import IarmMgrs.DsMgr.StandbyTableLaws
import IarmMgrs.DsMgr.StartUp
import IarmMgrs.DsMgr.StartUpLaws
import IarmMgrs.DsMgr.PowerShutdown
import IarmMgrs.DsMgr.PowerShutdownLaws
import IarmMgrs.DsMgr.EasAudio
import IarmMgrs.DsMgr.EasAudioLaws
import IarmMgrs.DsMgr.EasModes
import IarmMgrs.DsMgr.EasModesLaws
import IarmMgrs.DsMgr.BootPattern
import IarmMgrs.DsMgr.BootPatternLaws
import IarmMgrs.DeviceUpdateMgr.Sessions
import IarmMgrs.DeviceUpdateMgr.SessionsLaws
import IarmMgrs.SysMgr.States
import IarmMgrs.SysMgr.StatesLaws
import IarmMgrs.SysMgr.LifeCycle
import IarmMgrs.SysMgr.LifeCycleLaws
import IarmMgrs.DsMgr.TuneReady
import IarmMgrs.DsMgr.TuneReadyLaws
import IarmMgrs.MfrMgr.Flash
import IarmMgrs.MfrMgr.FlashLaws
import IarmMgrs.MfrMgr.LifeCycle
import IarmMgrs.MfrMgr.LifeCycleLaws
import IarmMgrs.MfrMgr.Crypto
import IarmMgrs.MfrMgr.CryptoLaws
import IarmMgrs.MfrMgr.Srv
import IarmMgrs.MfrMgr.SrvLaws
import IarmMgrs.MfrMgr.Notify
import IarmMgrs.MfrMgr.NotifyLaws
import IarmMgrs.MfrMgr.SerializedData
import IarmMgrs.MfrMgr.SerializedDataLaws
import IarmMgrs.MfrMgr.FlashStatus
import IarmMgrs.MfrMgr.FlashStatusLaws
import IarmMgrs.MfrMgr.WriteProgress
import IarmMgrs.MfrMgr.WriteProgressLaws
import IarmMgrs.SysMgr.HdcpProfile
import IarmMgrs.SysMgr.HdcpProfileLaws
import IarmMgrs.SysMgr.SerialNumber
import IarmMgrs.SysMgr.SerialNumberLaws
import IarmMgrs.DeviceUpdateMgr.Packages
import IarmMgrs.DeviceUpdateMgr.PackagesLaws
import IarmMgrs.DeviceUpdateMgr.EventData
import IarmMgrs.DeviceUpdateMgr.EventDataLaws
import IarmMgrs.DeviceUpdateMgr.JsonParser
import IarmMgrs.DeviceUpdateMgr.JsonParserLaws
import IarmMgrs.DeviceUpdateMgr.Config
import IarmMgrs.DeviceUpdateMgr.Extraction
import IarmMgrs.DeviceUpdateMgr.ExtractionLaws
import IarmMgrs.DeviceUpdateMgr.Run
import IarmMgrs.DeviceUpdateMgr.RunLaws
import IarmMgrs.DeviceUpdateMgr.LoadTime
import IarmMgrs.DeviceUpdateMgr.LoadTimeLaws
import IarmMgrs.Utils.RdkProfile
import IarmMgrs.Utils.RdkProfileLaws
import IarmMgrs.DsMgr.ProductTraits
import IarmMgrs.DsMgr.ProductTraitsLaws
import IarmMgrs.MfrMgr.Settings
import IarmMgrs.MfrMgr.SettingsLaws
import IarmMgrs.DsMgr.PatternRpc
import IarmMgrs.DsMgr.PatternRpcLaws
import IarmMgrs.DeviceUpdateMgr.ConfigFile
import IarmMgrs.DeviceUpdateMgr.ConfigFileLaws
import IarmMgrs.MfrMgr.KeyNormalization
import IarmMgrs.MfrMgr.KeyNormalizationLaws
import IarmMgrs.MfrMgr.Remote
import IarmMgrs.MfrMgr.RemoteLaws
import IarmMgrs.DeviceUpdateMgr.Announcements
import IarmMgrs.DeviceUpdateMgr.AnnouncementsLaws
import IarmMgrs.MfrMgr.Encryption
import IarmMgrs.MfrMgr.EncryptionLaws
import IarmMgrs.DsMgr.PowerDelivery
import IarmMgrs.DsMgr.PowerDeliveryLaws
